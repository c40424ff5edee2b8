import NmSidebar.AmneziaWG.Config

/-!
# The DNS payload

Serializing a configuration and parsing a payload are inverse to each other, and the parser of
the source, which walks the buffer with an offset, reads no byte that is not there.
-/

namespace NmSidebar

open Text

/-! ## Big-endian words -/

@[simp] theorem length_writeBe32 (value : ℕ) : (writeBe32 value).length = 4 := rfl

theorem readBe32_writeBe32 {value : ℕ} (h : value < 4294967296) :
    readBe32 (writeBe32 value) = value := by
  simp only [readBe32, writeBe32, List.foldl_cons, List.foldl_nil, UInt8.toNat_ofNat']
  omega

theorem writeBe32_readBe32 {data : Bytes} (h : data.length = 4) :
    writeBe32 (readBe32 data) = data := by
  have hbyte : ∀ {n : ℕ} {b : UInt8}, n % 256 = b.toNat → UInt8.ofNat n = b := by
    intro n b hn
    apply UInt8.toNat_inj.mp
    rw [UInt8.toNat_ofNat', ← hn]
  match data, h with
  | [a, b, c, d], _ =>
    have hb := b.toNat_lt
    have hc := c.toNat_lt
    have hd := d.toNat_lt
    have ha := a.toNat_lt
    simp only [readBe32, writeBe32, List.foldl_cons, List.foldl_nil]
    rw [hbyte (b := a) (by omega), hbyte (b := b) (by omega), hbyte (b := c) (by omega),
      hbyte (b := d) (by omega)]

/-! ## Records -/

/-- A server of one of the two families, with an address of its length. -/
def DnsServer.Valid (server : DnsServer) : Prop :=
  (server.family = .inet ∧ server.address.length = 4) ∨
    (server.family = .inet6 ∧ server.address.length = 16)

/-- A domain that fits into a payload. -/
def DomainValid (domain : Bytes) : Prop :=
  domain.length ≠ 0 ∧ domain.length ≤ 253 ∧ valueIsDomain domain = true

/-- The bytes of a server. -/
def encodeServer (server : DnsServer) : Bytes :=
  (if server.family = .inet then 4 else 6) :: server.address

/-- The bytes of a domain. -/
def encodeDomain (domain : Bytes) : Bytes := writeBe32 domain.length ++ domain

/-- The payload of a configuration. -/
def encodeDns (dns : DnsConfig) : Bytes :=
  dnsPayloadMagic ++ writeBe32 dns.servers.length ++ writeBe32 dns.domains.length ++
    dns.servers.flatMap encodeServer ++ dns.domains.flatMap encodeDomain

theorem length_encodeServer (server : DnsServer) :
    (encodeServer server).length = 1 + server.address.length := by
  rw [encodeServer, List.length_cons, Nat.add_comm]

theorem length_encodeDomain (domain : Bytes) :
    (encodeDomain domain).length = 4 + domain.length := by
  rw [encodeDomain, List.length_append, length_writeBe32]

theorem length_encodeDns (dns : DnsConfig) :
    (encodeDns dns).length = dnsPayloadHeaderSize + (dns.servers.flatMap encodeServer).length +
      (dns.domains.flatMap encodeDomain).length := by
  simp only [encodeDns, List.length_append, length_writeBe32]
  rfl

/-! ## The measure -/

theorem measureServers_eq_ok {servers : List DnsServer} {m n : ℕ} :
    dnsConfigMeasureServers m servers = .ok n →
      (∀ server ∈ servers, server.Valid) ∧ n = m + (servers.flatMap encodeServer).length ∧
        (m ≤ maxDnsPayload → n ≤ maxDnsPayload) := by
  induction servers generalizing m with
  | nil =>
    intro h
    cases h
    exact ⟨by simp, by simp, id⟩
  | cons server rest ih =>
    intro h
    simp only [dnsConfigMeasureServers] at h
    split at h
    · cases h
    rename_i hvalid
    have hvalid : server.Valid := not_not.mp hvalid
    split at h
    · cases h
    obtain ⟨hrest, hn, hmax⟩ := ih h
    refine ⟨?_, ?_, fun _ => hmax ?_⟩
    · intro other hmem
      rcases List.mem_cons.mp hmem with rfl | hmem
      · exact hvalid
      · exact hrest other hmem
    · rw [hn, List.flatMap_cons, List.length_append, length_encodeServer]
      omega
    · have hlength : server.address.length ≤ 16 := by
        rcases hvalid with ⟨-, h⟩ | ⟨-, h⟩ <;> omega
      simp only [maxDnsPayload] at *
      omega

theorem measureServers_of_valid {servers : List DnsServer} {m : ℕ}
    (hvalid : ∀ server ∈ servers, server.Valid)
    (hmax : m + (servers.flatMap encodeServer).length ≤ maxDnsPayload) :
    dnsConfigMeasureServers m servers = .ok (m + (servers.flatMap encodeServer).length) := by
  induction servers generalizing m with
  | nil => rfl
  | cons server rest ih =>
    rw [List.flatMap_cons, List.length_append, length_encodeServer] at hmax ⊢
    have hserver : server.Valid := hvalid server List.mem_cons_self
    rw [dnsConfigMeasureServers, if_neg (fun h => h hserver), if_neg (by omega),
      ih (fun other h => hvalid other (List.mem_cons_of_mem _ h)) (by omega)]
    congr 1
    omega

theorem measureDomains_eq_ok {domains : List Bytes} {m n : ℕ} :
    dnsConfigMeasureDomains m domains = .ok n →
      (∀ domain ∈ domains, DomainValid domain) ∧ n = m + (domains.flatMap encodeDomain).length ∧
        (m ≤ maxDnsPayload → n ≤ maxDnsPayload) := by
  induction domains generalizing m with
  | nil =>
    intro h
    cases h
    exact ⟨by simp, by simp, id⟩
  | cons domain rest ih =>
    intro h
    simp only [dnsConfigMeasureDomains] at h
    split at h
    · cases h
    rename_i hvalid
    have hvalid : DomainValid domain := by
      obtain ⟨hne, hlength, hdomain⟩ := by simpa only [not_or] using hvalid
      exact ⟨hne, not_lt.mp hlength, by simpa using hdomain⟩
    split at h
    · cases h
    obtain ⟨hrest, hn, hmax⟩ := ih h
    refine ⟨?_, ?_, fun _ => hmax ?_⟩
    · intro other hmem
      rcases List.mem_cons.mp hmem with rfl | hmem
      · exact hvalid
      · exact hrest other hmem
    · rw [hn, List.flatMap_cons, List.length_append, length_encodeDomain]
      omega
    · have hlength := hvalid.2.1
      simp only [maxDnsPayload] at *
      omega

theorem measureDomains_of_valid {domains : List Bytes} {m : ℕ}
    (hvalid : ∀ domain ∈ domains, DomainValid domain)
    (hmax : m + (domains.flatMap encodeDomain).length ≤ maxDnsPayload) :
    dnsConfigMeasureDomains m domains = .ok (m + (domains.flatMap encodeDomain).length) := by
  induction domains generalizing m with
  | nil => rfl
  | cons domain rest ih =>
    obtain ⟨hne, hlength, hdomain⟩ := hvalid domain List.mem_cons_self
    rw [List.flatMap_cons, List.length_append, length_encodeDomain] at hmax ⊢
    rw [dnsConfigMeasureDomains, if_neg, if_neg (by omega),
      ih (fun other h => hvalid other (List.mem_cons_of_mem _ h)) (by omega)]
    · congr 1
      omega
    · rw [hdomain]
      simp only [not_or]
      exact ⟨hne, not_lt.mpr hlength, by simp⟩

/-- Every record takes five bytes or more. -/
theorem records_le_of_valid {dns : DnsConfig} (hservers : ∀ server ∈ dns.servers, server.Valid)
    (hdomains : ∀ domain ∈ dns.domains, DomainValid domain) :
    5 * (dns.servers.length + dns.domains.length) ≤
      (dns.servers.flatMap encodeServer).length + (dns.domains.flatMap encodeDomain).length := by
  rw [Nat.mul_add]
  apply Nat.add_le_add
  · refine mul_length_le_flatMap fun server hmem => ?_
    rw [length_encodeServer]
    rcases hservers server hmem with ⟨-, h⟩ | ⟨-, h⟩ <;> omega
  · refine mul_length_le_flatMap fun domain hmem => ?_
    have hne := (hdomains domain hmem).1
    rw [length_encodeDomain]
    omega

/-- What a payload can hold. -/
structure DnsConfig.Representable (dns : DnsConfig) : Prop where
  servers : ∀ server ∈ dns.servers, server.Valid
  domains : ∀ domain ∈ dns.domains, DomainValid domain
  served : dns.domains ≠ [] → dns.servers ≠ []
  fits : (encodeDns dns).length ≤ maxDnsPayload

/-- The measure accepts what a payload can hold, and gives the payload's length. -/
theorem measure_eq_ok {dns : DnsConfig} {size : ℕ} :
    dnsConfigMeasure dns = .ok size ↔ dns.Representable ∧ size = (encodeDns dns).length := by
  constructor
  · intro h
    unfold dnsConfigMeasure at h
    split at h
    · cases h
    split at h
    · cases h
    rename_i hserved
    split at h
    · cases h
    rename_i measured hmeasured
    obtain ⟨hservers, rfl, hmax⟩ := measureServers_eq_ok hmeasured
    obtain ⟨hdomains, rfl, hmax'⟩ := measureDomains_eq_ok h
    have hlength := length_encodeDns dns
    refine ⟨⟨hservers, hdomains, fun h h' => hserved ⟨h, h'⟩, ?_⟩, hlength.symm⟩
    rw [hlength]
    exact hmax' (hmax (by decide))
  · rintro ⟨⟨hservers, hdomains, hserved, hfits⟩, rfl⟩
    have hrecords := records_le_of_valid hservers hdomains
    rw [length_encodeDns] at hfits ⊢
    have hmax : dnsPayloadHeaderSize + (dns.servers.flatMap encodeServer).length ≤ maxDnsPayload :=
      le_trans (Nat.le_add_right _ _) hfits
    rw [dnsConfigMeasure, if_neg, if_neg (fun h => hserved h.1 h.2),
      measureServers_of_valid hservers hmax]
    · exact measureDomains_of_valid hdomains hfits
    · simp only [dnsPayloadMaxRecords, dnsPayloadHeaderSize, maxDnsPayload] at hfits ⊢
      omega

/-- The serializer writes the payload of what the measure accepts. -/
theorem dnsConfigSerialize_eq_some {dns : DnsConfig} {data : Bytes} :
    dnsConfigSerialize dns = some data ↔ dns.Representable ∧ data = encodeDns dns := by
  unfold dnsConfigSerialize
  cases hmeasure : dnsConfigMeasure dns with
  | error failure =>
    refine Iff.intro (fun h => nomatch h) fun h => ?_
    rw [measure_eq_ok.mpr ⟨h.1, rfl⟩] at hmeasure
    cases hmeasure
  | ok size =>
    refine ⟨fun h => ⟨(measure_eq_ok.mp hmeasure).1, (Option.some.inj h).symm⟩, fun h => ?_⟩
    rw [h.2]
    rfl

/-! ## Parsing what was serialized -/

theorem parseServers_encode {servers : List DnsServer} (rest : Bytes)
    (hvalid : ∀ server ∈ servers, server.Valid) :
    dnsConfigParseServers servers.length (servers.flatMap encodeServer ++ rest) =
      some (servers, rest) := by
  induction servers with
  | nil => rfl
  | cons server others ih =>
    have ih := ih fun other h => hvalid other (List.mem_cons_of_mem _ h)
    obtain ⟨family, address⟩ := server
    rw [List.flatMap_cons, List.append_assoc, encodeServer, List.cons_append, List.length_cons]
    simp only [dnsConfigParseServers]
    rcases hvalid _ List.mem_cons_self with ⟨hfamily, hlength⟩ | ⟨hfamily, hlength⟩
    · obtain rfl : family = .inet := hfamily
      rw [if_pos ⟨rfl, by rw [List.length_append, hlength]; omega⟩, ← hlength, List.drop_left,
        List.take_left, ih]
      rfl
    · obtain rfl : family = .inet6 := hfamily
      rw [if_neg (by simp), if_pos ⟨rfl, by rw [List.length_append, hlength]; omega⟩, ← hlength,
        List.drop_left, List.take_left, ih]
      rfl

theorem parseDomains_encode {domains : List Bytes} (rest : Bytes)
    (hvalid : ∀ domain ∈ domains, DomainValid domain) :
    dnsConfigParseDomains domains.length (domains.flatMap encodeDomain ++ rest) =
      some (domains, rest) := by
  induction domains with
  | nil => rfl
  | cons domain others ih =>
    have ih := ih fun other h => hvalid other (List.mem_cons_of_mem _ h)
    obtain ⟨hne, hlength, hdomain⟩ := hvalid domain List.mem_cons_self
    have hread : readBe32 (writeBe32 domain.length) = domain.length :=
      readBe32_writeBe32 (by omega)
    rw [List.flatMap_cons, List.append_assoc, encodeDomain, List.append_assoc, List.length_cons]
    simp only [dnsConfigParseDomains]
    have htake : ∀ xs, (writeBe32 domain.length ++ xs).take 4 = writeBe32 domain.length :=
      fun xs => rfl
    have hdrop : ∀ xs, (writeBe32 domain.length ++ xs).drop 4 = xs := fun xs => rfl
    rw [htake, hdrop, hread, List.take_left, List.drop_left, ih, if_neg, if_neg]
    · rfl
    · simp only [List.length_append, not_or]
      exact ⟨hne, by omega, by omega, by simp [hdomain]⟩
    · simp only [List.length_append, length_writeBe32]
      omega

/-- Parsing recovers the configuration that was serialized. -/
theorem dnsConfigParse_encodeDns {dns : DnsConfig} (h : dns.Representable) :
    dnsConfigParse (encodeDns dns) = some dns := by
  have hrecords := records_le_of_valid h.servers h.domains
  have hlength := length_encodeDns dns
  have hfits := h.fits
  have hheader : ∀ xs : Bytes, (dnsPayloadMagic ++ writeBe32 dns.servers.length ++
      writeBe32 dns.domains.length ++ xs).take 8 = dnsPayloadMagic := fun xs => rfl
  have hservers : ∀ xs : Bytes, ((dnsPayloadMagic ++ writeBe32 dns.servers.length ++
      writeBe32 dns.domains.length ++ xs).drop 8).take 4 = writeBe32 dns.servers.length :=
    fun xs => rfl
  have hdomains : ∀ xs : Bytes, ((dnsPayloadMagic ++ writeBe32 dns.servers.length ++
      writeBe32 dns.domains.length ++ xs).drop 12).take 4 = writeBe32 dns.domains.length :=
    fun xs => rfl
  have hbody : ∀ xs : Bytes, (dnsPayloadMagic ++ writeBe32 dns.servers.length ++
      writeBe32 dns.domains.length ++ xs).drop dnsPayloadHeaderSize = xs := fun xs => rfl
  have hbound : dns.servers.length < 4294967296 ∧ dns.domains.length < 4294967296 := by
    simp only [maxDnsPayload] at hfits
    omega
  have hempty : ¬(dns.domains.length > 0 ∧ dns.servers.length = 0) := by
    rintro ⟨hdomain, hserver⟩
    exact h.served (List.length_pos_iff.mp hdomain) (List.length_eq_zero_iff.mp hserver)
  have hdomainsEnd := parseDomains_encode [] h.domains
  rw [List.append_nil] at hdomainsEnd
  unfold dnsConfigParse
  rw [if_neg (by simp only [not_or]; exact ⟨by omega, by omega, fun h => h rfl⟩)]
  have hall : encodeDns dns = dnsPayloadMagic ++ writeBe32 dns.servers.length ++
      writeBe32 dns.domains.length ++ (dns.servers.flatMap encodeServer ++
        dns.domains.flatMap encodeDomain) := by
    rw [encodeDns, List.append_assoc]
  have hlengths : ¬(dns.servers.length > (encodeDns dns).length ∨
      dns.domains.length > (encodeDns dns).length ∨
      (dns.domains.length > 0 ∧ dns.servers.length = 0)) := by
    rw [not_or, not_or]
    exact ⟨by omega, by omega, hempty⟩
  rw [hall] at hlengths ⊢
  rw [hservers, hdomains, hbody, readBe32_writeBe32 hbound.1, readBe32_writeBe32 hbound.2]
  dsimp only
  rw [if_neg hlengths, parseServers_encode _ h.servers]
  dsimp only
  rw [hdomainsEnd]
  rfl

/-! ## Serializing what was parsed -/

theorem encode_of_parseServers {count : ℕ} {data rest : Bytes} {servers : List DnsServer}
    (h : dnsConfigParseServers count data = some (servers, rest)) :
    data = servers.flatMap encodeServer ++ rest ∧ servers.length = count ∧
      ∀ server ∈ servers, server.Valid := by
  induction count generalizing data servers with
  | zero =>
    cases h
    exact ⟨rfl, rfl, by simp⟩
  | succ count ih =>
    -- a record of one family and what follows it
    have hrecord : ∀ (family : AddressFamily) (size : ℕ) (tail : Bytes) (kind : UInt8),
        (∀ address, (⟨family, address⟩ : DnsServer).Valid ↔ address.length = size) →
        (∀ address, encodeServer ⟨family, address⟩ = kind :: address) → size ≤ tail.length →
        (dnsConfigParseServers count (tail.drop size)).map (fun parsed =>
          ((⟨family, tail.take size⟩ : DnsServer) :: parsed.1, parsed.2)) = some (servers, rest) →
        kind :: tail = servers.flatMap encodeServer ++ rest ∧ servers.length = count + 1 ∧
          ∀ server ∈ servers, server.Valid := by
      intro family size tail kind hvalid hencode hsize hmap
      obtain ⟨⟨others, rest'⟩, hothers, heq⟩ := Option.map_eq_some_iff.mp hmap
      obtain ⟨rfl, rfl⟩ := Prod.mk.inj heq
      obtain ⟨htail, hcount, hothers⟩ := ih hothers
      refine ⟨?_, by rw [List.length_cons, hcount], fun server hmem => ?_⟩
      · rw [List.flatMap_cons, hencode, List.cons_append, List.cons_append, List.append_assoc, ← htail,
          List.take_append_drop]
      · rcases List.mem_cons.mp hmem with rfl | hmem
        · exact (hvalid _).mpr (by rw [List.length_take, Nat.min_eq_left hsize])
        · exact hothers server hmem
    cases data with
    | nil => cases h
    | cons kind tail =>
      simp only [dnsConfigParseServers] at h
      split at h
      · rename_i hkind
        obtain ⟨rfl, hsize⟩ := hkind
        exact hrecord .inet 4 tail 4 (fun _ => by simp [DnsServer.Valid])
          (fun _ => rfl) hsize h
      split at h
      · rename_i hkind
        obtain ⟨rfl, hsize⟩ := hkind
        exact hrecord .inet6 16 tail 6 (fun _ => by simp [DnsServer.Valid])
          (fun _ => rfl) hsize h
      · cases h

theorem encode_of_parseDomains {count : ℕ} {data rest : Bytes} {domains : List Bytes}
    (h : dnsConfigParseDomains count data = some (domains, rest)) :
    data = domains.flatMap encodeDomain ++ rest ∧ domains.length = count ∧
      ∀ domain ∈ domains, DomainValid domain := by
  induction count generalizing data domains with
  | zero =>
    cases h
    exact ⟨rfl, rfl, by simp⟩
  | succ count ih =>
    simp only [dnsConfigParseDomains] at h
    split at h
    · cases h
    rename_i hword
    split at h
    · cases h
    rename_i hdomain
    obtain ⟨hne, hshort, hsize, hvalid⟩ := by simpa only [not_or] using hdomain
    obtain ⟨⟨others, rest'⟩, hothers, heq⟩ := Option.map_eq_some_iff.mp h
    obtain ⟨rfl, rfl⟩ := Prod.mk.inj heq
    obtain ⟨htail, hcount, hothers⟩ := ih hothers
    have hlength : ((data.drop 4).take (readBe32 (data.take 4))).length =
        readBe32 (data.take 4) := by
      rw [List.length_take, Nat.min_eq_left (not_lt.mp hsize)]
    have hwordLength : (data.take 4).length = 4 := by
      rw [List.length_take, Nat.min_eq_left (not_lt.mp hword)]
    refine ⟨?_, by rw [List.length_cons, hcount], fun domain hmem => ?_⟩
    · rw [List.flatMap_cons, encodeDomain, hlength, writeBe32_readBe32 hwordLength,
        List.append_assoc, List.append_assoc, ← htail, List.take_append_drop,
        List.take_append_drop]
    · rcases List.mem_cons.mp hmem with rfl | hmem
      · exact ⟨by rwa [hlength], by rw [hlength]; exact not_lt.mp hshort, by simpa using hvalid⟩
      · exact hothers domain hmem

/-- A payload that is accepted is the one its configuration is serialized to. -/
theorem encodeDns_of_parse {data : Bytes} {dns : DnsConfig} (h : dnsConfigParse data = some dns) :
    dns.Representable ∧ data = encodeDns dns := by
  unfold dnsConfigParse at h
  split at h
  · cases h
  rename_i hheader
  obtain ⟨hshort, hlong, hmagic⟩ := by simpa only [not_or] using hheader
  dsimp only at h
  split at h
  · cases h
  rename_i hcounts
  obtain ⟨-, -, hserved⟩ := by simpa only [not_or] using hcounts
  split at h
  · cases h
  rename_i servers afterServers hservers
  split at h
  · cases h
  rename_i domains afterDomains hdomains
  split at h
  · rename_i hend
    cases h
    obtain ⟨hbody, hserverCount, hserversValid⟩ := encode_of_parseServers hservers
    obtain ⟨htail, hdomainCount, hdomainsValid⟩ := encode_of_parseDomains hdomains
    have hword : ∀ k, k + 4 ≤ dnsPayloadHeaderSize → ((data.drop k).take 4).length = 4 := by
      intro k hk
      rw [List.length_take, List.length_drop]
      omega
    have hdata : data = encodeDns ⟨servers, domains⟩ := by
      have hmagic : data.take 8 = dnsPayloadMagic := not_not.mp hmagic
      rw [encodeDns, hserverCount, hdomainCount, writeBe32_readBe32 (hword 8 (by decide)),
        writeBe32_readBe32 (hword 12 (by decide)), ← hmagic]
      dsimp only
      rw [hend, List.append_nil] at htail
      rw [List.append_assoc, ← htail, ← hbody, ← List.take_add, ← List.take_add]
      exact (List.take_append_drop dnsPayloadHeaderSize data).symm
    refine ⟨⟨hserversValid, hdomainsValid, ?_, ?_⟩, hdata⟩
    · intro hne hnone
      apply hserved
      rw [← hserverCount, ← hdomainCount]
      exact ⟨List.length_pos_iff.mpr hne, List.length_eq_zero_iff.mpr hnone⟩
    · rw [← hdata]
      exact not_lt.mp hlong
  · cases h

/-! ## The offset of the source

The source walks the buffer with an offset of type `gsize`. Here every access is checked, and a
difference of sizes wraps around. -/

/-- Why a walk over the buffer stops: it would read past the end, or the payload is invalid. -/
inductive DnsWalkStop where
  | overrun
  | invalid
  deriving DecidableEq

/-- The bytes at an offset. -/
def readBytes (data : Bytes) (offset count : ℕ) : Except DnsWalkStop Bytes :=
  if offset + count ≤ data.length then .ok ((data.drop offset).take count) else .error .overrun

/-- The difference of two values of type `gsize`. -/
def gsizeSub (a b : ℕ) : ℕ := (a + 2 ^ 64 - b) % 2 ^ 64

/-- The family and the length of the address that the first byte of a server's record says. -/
def serverKind (kind : Bytes) : AddressFamily × ℕ :=
  if kind = [4] then (.inet, 4) else if kind = [6] then (.inet6, 16) else (.inet, 0)

/-- The loop over the servers, with the servers found and the offset after them. -/
def walkServers (data : Bytes) : ℕ → ℕ → Except DnsWalkStop (List DnsServer × ℕ)
  | 0, offset => .ok ([], offset)
  | count + 1, offset =>
    if offset ≥ data.length then .error .invalid
    else do
      let kind ← readBytes data offset 1
      let offset := offset + 1
      let (family, length) := serverKind kind
      if length = 0 ∨ length > gsizeSub data.length offset then throw .invalid
      else
        let address ← readBytes data offset length
        let (servers, stop) ← walkServers data count (offset + length)
        return (⟨family, address⟩ :: servers, stop)

/-- The loop over the domains. -/
def walkDomains (data : Bytes) : ℕ → ℕ → Except DnsWalkStop (List Bytes × ℕ)
  | 0, offset => .ok ([], offset)
  | count + 1, offset =>
    if gsizeSub data.length offset < 4 then .error .invalid
    else do
      let word ← readBytes data offset 4
      let offset := offset + 4
      let length := readBe32 word
      if length = 0 ∨ length > 253 ∨ length > gsizeSub data.length offset then throw .invalid
      else
        let domain ← readBytes data offset length
        if valueIsDomain domain = false then throw .invalid
        else
          let (domains, stop) ← walkDomains data count (offset + length)
          return (domain :: domains, stop)

/-- `network_sidebar_amneziawg_dns_config_parse` with its offset. -/
def walkDns (data : Bytes) : Except DnsWalkStop DnsConfig :=
  if data.length < dnsPayloadHeaderSize ∨ data.length > maxDnsPayload then .error .invalid
  else do
    let magic ← readBytes data 0 8
    if magic ≠ dnsPayloadMagic then throw .invalid
    else
      let serverCount := readBe32 (← readBytes data 8 4)
      let domainCount := readBe32 (← readBytes data 12 4)
      if serverCount > data.length ∨ domainCount > data.length ∨
          (domainCount > 0 ∧ serverCount = 0) then throw .invalid
      else
        let (servers, offset) ← walkServers data serverCount dnsPayloadHeaderSize
        let (domains, offset) ← walkDomains data domainCount offset
        if offset = data.length then return ⟨servers, domains⟩ else throw .invalid

/-- What a walk gives where the loop over the rest of the buffer gives `found`. -/
def walked {α : Type} (data : Bytes) : Option (α × Bytes) → Except DnsWalkStop (α × ℕ)
  | none => .error .invalid
  | some found => .ok (found.1, data.length - found.2.length)

theorem readBytes_eq {data : Bytes} {offset count : ℕ} (h : offset + count ≤ data.length) :
    readBytes data offset count = .ok ((data.drop offset).take count) := if_pos h

theorem gsizeSub_eq {a b : ℕ} (h : b ≤ a) (ha : a < 2 ^ 64) : gsizeSub a b = a - b := by
  unfold gsizeSub
  omega

/-- The loop over the servers reads inside the buffer, and finds what the loop over the rest of
the buffer finds. -/
theorem walkServers_eq {data : Bytes} (hdata : data.length < 2 ^ 64) (count : ℕ) {offset : ℕ}
    (hoffset : offset ≤ data.length) :
    walkServers data count offset =
      walked data (dnsConfigParseServers count (data.drop offset)) := by
  induction count generalizing offset with
  | zero =>
    rw [walkServers, dnsConfigParseServers, walked, List.length_drop]
    congr 2
    omega
  | succ count ih =>
    simp only [walkServers, dnsConfigParseServers]
    by_cases hend : offset ≥ data.length
    · rw [if_pos hend, List.drop_eq_nil_of_le hend]
      rfl
    have hlt : offset < data.length := not_le.mp hend
    -- the record of one server, once its kind is known
    have hrecord : ∀ (family : AddressFamily) (size : ℕ), offset + 1 + size ≤ data.length →
        (readBytes data (offset + 1) size >>= fun address =>
          walkServers data count (offset + 1 + size) >>= fun found =>
            pure ((⟨family, address⟩ : DnsServer) :: found.1, found.2)) =
          walked data ((dnsConfigParseServers count ((data.drop (offset + 1)).drop size)).map
            fun parsed => (⟨family, (data.drop (offset + 1)).take size⟩ :: parsed.1, parsed.2)) := by
      intro family size hsize
      rw [readBytes_eq hsize, List.drop_drop]
      show (walkServers data count (offset + 1 + size) >>= _) = _
      rw [ih hsize]
      cases dnsConfigParseServers count (data.drop (offset + 1 + size)) <;> rfl
    have hsub : gsizeSub data.length (offset + 1) = data.length - (offset + 1) :=
      gsizeSub_eq hlt hdata
    have hrest : (data.drop (offset + 1)).length = data.length - (offset + 1) := List.length_drop
    rw [if_neg hend, readBytes_eq (by omega), List.drop_eq_getElem_cons hlt]
    show (if (serverKind [data[offset]]).2 = 0 ∨
        (serverKind [data[offset]]).2 > gsizeSub data.length (offset + 1) then _ else _) =
      walked data (if data[offset] = 4 ∧ 4 ≤ (data.drop (offset + 1)).length then _
        else if data[offset] = 6 ∧ 16 ≤ (data.drop (offset + 1)).length then _ else none)
    generalize data[offset] = kind
    rw [hrest, hsub]
    by_cases hfour : kind = 4
    · subst hfour
      by_cases hsize : 4 ≤ data.length - (offset + 1)
      · rw [if_neg (by simpa [serverKind] using hsize), if_pos (And.intro rfl hsize)]
        exact hrecord .inet 4 (by omega)
      · rw [if_pos (.inr (not_le.mp hsize)), if_neg (fun h => hsize h.2), if_neg (by simp)]
        rfl
    by_cases hsix : kind = 6
    · subst hsix
      by_cases hsize : 16 ≤ data.length - (offset + 1)
      · rw [if_neg (by simpa [serverKind] using hsize), if_neg (by simp),
          if_pos (And.intro rfl hsize)]
        exact hrecord .inet6 16 (by omega)
      · rw [if_pos (.inr (not_le.mp hsize)), if_neg (by simp), if_neg (fun h => hsize h.2)]
        rfl
    · have hnone : serverKind [kind] = (.inet, 0) := by
        rw [serverKind, if_neg (by simpa using hfour), if_neg (by simpa using hsix)]
      rw [hnone, if_pos (.inl rfl), if_neg (fun h => hfour h.1), if_neg (fun h => hsix h.1)]
      rfl

/-- The loop over the domains reads inside the buffer, and finds what the loop over the rest of
the buffer finds. -/
theorem walkDomains_eq {data : Bytes} (hdata : data.length < 2 ^ 64) (count : ℕ) {offset : ℕ}
    (hoffset : offset ≤ data.length) :
    walkDomains data count offset =
      walked data (dnsConfigParseDomains count (data.drop offset)) := by
  induction count generalizing offset with
  | zero =>
    rw [walkDomains, dnsConfigParseDomains, walked, List.length_drop]
    congr 2
    omega
  | succ count ih =>
    have hrest : (data.drop offset).length = data.length - offset := List.length_drop
    simp only [walkDomains, dnsConfigParseDomains, hrest, gsizeSub_eq hoffset hdata]
    by_cases hword : data.length - offset < 4
    · rw [if_pos hword, if_pos hword]
      rfl
    rw [if_neg hword, if_neg hword, readBytes_eq (by omega), List.drop_drop]
    show (if readBe32 ((data.drop offset).take 4) = 0 ∨ _ then _ else _) = _
    generalize readBe32 ((data.drop offset).take 4) = length
    have hrest : (data.drop (offset + 4)).length = data.length - (offset + 4) := List.length_drop
    rw [hrest, gsizeSub_eq (by omega) hdata]
    by_cases hlength : length = 0 ∨ length > 253 ∨ length > data.length - (offset + 4)
    · rw [if_pos hlength, if_pos]
      · rfl
      · rcases hlength with h | h | h
        · exact .inl h
        · exact .inr (.inl h)
        · exact .inr (.inr (.inl h))
    rw [if_neg hlength]
    obtain ⟨hzero, hlong, hsize⟩ := by simpa only [not_or] using hlength
    rw [readBytes_eq (by omega)]
    show (if valueIsDomain _ = false then _ else _) = _
    by_cases hdomain : valueIsDomain ((data.drop (offset + 4)).take length) = false
    · rw [if_pos hdomain, if_pos (.inr (.inr (.inr hdomain)))]
      rfl
    rw [if_neg hdomain, if_neg, List.drop_drop, ih (by omega)]
    · cases dnsConfigParseDomains count (data.drop (offset + 4 + length)) <;> rfl
    · rw [not_or, not_or, not_or]
      exact ⟨hzero, hlong, hsize, hdomain⟩

/-- The rest of a buffer is what is left at its offset. -/
theorem drop_of_suffix {data rest : Bytes} (h : rest <:+ data) :
    data.drop (data.length - rest.length) = rest :=
  (List.suffix_iff_eq_drop.mp h).symm

/-- The parser of the source reads inside the buffer, whatever the counts say, and its result is
that of `dnsConfigParse`. -/
theorem walkDns_eq (data : Bytes) :
    walkDns data = (dnsConfigParse data).elim (.error .invalid) .ok := by
  unfold walkDns dnsConfigParse
  by_cases hsize : data.length < dnsPayloadHeaderSize ∨ data.length > maxDnsPayload
  · rw [if_pos hsize, if_pos (hsize.imp id .inl)]
    rfl
  obtain ⟨hshort, hlong⟩ := not_or.mp hsize
  have hheader : 16 ≤ data.length := not_lt.mp hshort
  have hdata : data.length < 2 ^ 64 := lt_of_le_of_lt (not_lt.mp hlong) (by decide)
  rw [if_neg hsize, readBytes_eq (by omega), readBytes_eq (by omega), readBytes_eq (by omega),
    List.drop_zero]
  show (if data.take 8 ≠ dnsPayloadMagic then _ else _) = _
  by_cases hmagic : data.take 8 ≠ dnsPayloadMagic
  · rw [if_pos hmagic, if_pos (.inr (.inr hmagic))]
    rfl
  rw [if_neg hmagic, if_neg (by rw [not_or, not_or]; exact ⟨hshort, hlong, hmagic⟩)]
  generalize (data.drop 8).take 4 = servers
  generalize (data.drop 12).take 4 = domains
  show (if readBe32 servers > data.length ∨ _ then _ else _) = _
  dsimp only
  by_cases hcounts : readBe32 servers > data.length ∨ readBe32 domains > data.length ∨
      (readBe32 domains > 0 ∧ readBe32 servers = 0)
  · rw [if_pos hcounts, if_pos hcounts]
    rfl
  rw [if_neg hcounts, if_neg hcounts, walkServers_eq hdata _ (not_lt.mp hshort)]
  cases hservers : dnsConfigParseServers (readBe32 servers) (data.drop dnsPayloadHeaderSize) with
  | none => rfl
  | some found =>
    obtain ⟨servers, rest⟩ := found
    have hsuffix : rest <:+ data :=
      (List.suffix_append _ _).trans
        ((encode_of_parseServers hservers).1 ▸ List.drop_suffix dnsPayloadHeaderSize data)
    show (walkDomains data _ (data.length - rest.length) >>= _) = _
    rw [walkDomains_eq hdata _ (Nat.sub_le _ _), drop_of_suffix hsuffix]
    dsimp only
    cases hdomains : dnsConfigParseDomains (readBe32 domains) rest with
    | none => rfl
    | some found =>
      obtain ⟨domains, last⟩ := found
      have hlast : last.length ≤ data.length :=
        ((List.suffix_append _ _).trans
          ((encode_of_parseDomains hdomains).1 ▸ hsuffix)).length_le
      show (if data.length - last.length = data.length then _ else _) = _
      dsimp only
      by_cases hend : last = []
      · rw [if_pos (by rw [hend]; rfl), if_pos hend]
        rfl
      · have hpos := List.length_pos_iff.mpr hend
        rw [if_neg (by omega), if_neg hend]
        rfl

/-! ## The codec -/

/-- Every configuration that is measured, in particular that of every accepted envelope, is
serialized to as many bytes as were measured and recovered by parsing them; every payload that is
accepted is the one its configuration is serialized to; and the parser reads no byte outside the
buffer. -/
theorem dnsPayload_codec :
    (∀ dns size, dnsConfigMeasure dns = .ok size → ∃ data, dnsConfigSerialize dns = some data ∧
      data.length = size ∧ size ≤ 256 * 1024 ∧ dnsConfigParse data = some dns) ∧
    (∀ text envelope, configParseEnvelope text = .ok envelope →
      ∃ size, dnsConfigMeasure envelope.dns = .ok size) ∧
    (∀ data dns, dnsConfigParse data = some dns → dnsConfigSerialize dns = some data) ∧
    ∀ data, walkDns data = (dnsConfigParse data).elim (.error .invalid) .ok := by
  refine ⟨fun dns size h => ?_, fun text envelope h => ?_, fun data dns h => ?_, walkDns_eq⟩
  · obtain ⟨hdns, rfl⟩ := measure_eq_ok.mp h
    exact ⟨_, dnsConfigSerialize_eq_some.mpr ⟨hdns, rfl⟩, rfl, hdns.fits,
      dnsConfigParse_encodeDns hdns⟩
  · unfold configParseEnvelope at h
    split at h
    · cases h
    split at h
    · cases h
    · cases h
    · rename_i size hsize
      cases h
      exact ⟨size, hsize⟩
  · exact dnsConfigSerialize_eq_some.mpr (encodeDns_of_parse h)

/-- One server and one domain. -/
theorem dnsPayload_codec_sample :
    ∃ data, dnsConfigSerialize ⟨[⟨.inet, [192, 0, 2, 1]⟩], [ascii "example.org"]⟩ = some data ∧
      data.length = 36 := by
  obtain ⟨data, hdata, hlength, -⟩ :=
    dnsPayload_codec.1 ⟨[⟨.inet, [192, 0, 2, 1]⟩], [ascii "example.org"]⟩ 36 (by decide +kernel)
  exact ⟨data, hdata, hlength⟩

end NmSidebar
