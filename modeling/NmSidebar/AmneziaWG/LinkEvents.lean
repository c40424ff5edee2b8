import NmSidebar.AmneziaWG.RuntimeJournal
import NmSidebar.Text.Frames

/-!
# Link events

The filter of `link_identity.c` decides whether a datagram of the kernel can concern one of the
sessions of an observation. A datagram that it lets pass is well formed, and applying its
messages to the table of links leaves every tracked observation as it was.
-/

namespace NmSidebar

open Text

/-! ## Messages -/

/-- The order of the bytes in the machine's words. -/
inductive ByteOrder where
  | little
  | big

/-- The value of a word. -/
def ByteOrder.read (order : ByteOrder) (data : Bytes) : ℕ :=
  match order with
  | .little => data.foldr (fun b v => b.toNat + 256 * v) 0
  | .big => data.foldl (fun v b => v * 256 + b.toNat) 0

/-- Messages: `struct nlmsghdr`. -/
def nlmsgFormat (order : ByteOrder) : FrameFormat where
  header := 16
  lengthOf header := order.read (header.take 4)
  header_pos := by decide

/-- Attributes: `struct rtattr`. -/
def rtattrFormat (order : ByteOrder) : FrameFormat where
  header := 4
  lengthOf header := order.read (header.take 2)
  header_pos := by decide

/-- `NLMSG_NOOP`. -/
def nlmsgNoop : ℕ := 1

/-- `RTM_NEWLINK`. -/
def rtmNewlink : ℕ := 16

/-- `RTM_DELLINK`. -/
def rtmDellink : ℕ := 17

/-- `IFLA_IFNAME`. -/
def iflaIfname : ℕ := 3

/-- `IFLA_IFALIAS`. -/
def iflaIfalias : ℕ := 20

variable (order : ByteOrder)

/-- `nlmsg_type`. -/
def nlmsgType (message : Bytes) : ℕ := order.read ((message.drop 4).take 2)

/-- `NLM_F_DUMP_INTR` among `nlmsg_flags`. -/
def nlmsgDumpInterrupted (message : Bytes) : Bool :=
  (order.read ((message.drop 6).take 2)).testBit 4

/-- `ifi_index` as its 32 bits. -/
def ifiIndex (message : Bytes) : ℕ := order.read ((message.drop 20).take 4)

/-- `rta_type`. -/
def rtaType (rta : Bytes) : ℕ := order.read ((rta.drop 2).take 2)

/-- `rta_type & NLA_TYPE_MASK`. -/
def rtaKind (rta : Bytes) : ℕ := rtaType order rta % 16384

/-- `RTA_DATA`. -/
def rtaData (rta : Bytes) : Bytes := rta.drop 4

/-- `attribute_string_is_valid`. -/
def attributeStringIsValid (rta : Bytes) : Bool :=
  decide ((rtaData rta).getLast? = some 0) && !(rtaData rta).dropLast.contains 0

/-- The string of an attribute, without its final zero. -/
def attributeString (rta : Bytes) : Bytes := (rtaData rta).dropLast

/-- The size of `ifname` in a `LinkRecord`. -/
def ifnameSize : ℕ := 16

/-- The size of `alias` in a `LinkRecord`. -/
def aliasSize : ℕ := 48

/-- `attribute_string_copy`. -/
def attributeStringCopy (rta : Bytes) (size : ℕ) : Option Bytes :=
  if (rtaData rta).length > size ∨ attributeStringIsValid rta = false then none
  else some (attributeString rta)

/-- The `LinkRecord` of a message, whose name is empty where the message has none. -/
structure LinkMessage where
  ifindex : UInt32
  ifname : Bytes
  linkAlias : Option Bytes

/-- The loop of `parse_link_message` over the attributes. -/
structure LinkScan where
  haveName : Bool
  haveAlias : Bool
  ifname : Bytes
  linkAlias : Option Bytes

/-- One attribute of `parse_link_message`. An alias that is too long is no alias of a session. -/
def parseLinkAttribute (scan : LinkScan) (rta : Bytes) : Option LinkScan :=
  if rtaKind order rta = iflaIfname then
    match attributeStringCopy rta ifnameSize with
    | none => none
    | some ifname =>
      if scan.haveName ∨ rtaType order rta ≠ iflaIfname ∨ ifname = [] then none
      else some { scan with haveName := true, ifname }
  else if rtaKind order rta = iflaIfalias then
    if scan.haveAlias ∨ rtaType order rta ≠ iflaIfalias ∨
        attributeStringIsValid rta = false then none
    else
      some { scan with haveAlias := true, linkAlias := attributeStringCopy rta aliasSize }
  else some scan

/-- `parse_link_message`. -/
def parseLinkMessage (message : Bytes) (requireName : Bool) : Option LinkMessage :=
  if message.length < 32 ∨ ifiIndex order message = 0 ∨ ifiIndex order message ≥ 2 ^ 31 then none
  else
    let attributes := message.drop 32
    match (rtattrFormat order).walk (parseLinkAttribute order) attributes.length
      ⟨false, false, [], none⟩ attributes with
    | none => none
    | some scan =>
      if requireName ∧ scan.haveName = false then none
      else some ⟨UInt32.ofNat (ifiIndex order message), scan.ifname, scan.linkAlias⟩

/-! ## The filter -/

/-- `NetworkSidebarAmneziaWGLinkIdentity` where a token is optional. -/
structure MonitoredIdentity where
  name : Name
  linkToken : Option Bytes
  ifindex : UInt32

/-- The checks at the start of `network_sidebar_amneziawg_link_event_filter_add`. -/
def MonitoredIdentity.IsValid (identity : MonitoredIdentity) : Prop :=
  nameIsValid identity.name = true ∧ ∀ token ∈ identity.linkToken, linkTokenIsValid token = true

instance (identity : MonitoredIdentity) : Decidable identity.IsValid :=
  inferInstanceAs (Decidable (_ ∧ _))

/-- `NetworkSidebarAmneziaWGLinkEventFilter`. -/
structure LinkEventFilter where
  names : List Name
  aliases : List Bytes
  indices : List UInt32

/-- `network_sidebar_amneziawg_link_event_filter_new`. -/
def LinkEventFilter.new : LinkEventFilter := ⟨[], [], []⟩

/-- The indices a snapshot contributes: that of the link in the name table, and those of all
links with the alias. -/
def snapshotIndices (snapshot : LinkSnapshot) (identity : MonitoredIdentity) : List UInt32 :=
  let named := (snapshot.filter fun record => record.ifname == identity.name).getLast?
  let claimed := match identity.linkToken with
    | none => []
    | some token => snapshot.claimedBy token
  (named.toList ++ claimed).map LinkRecord.ifindex

/-- `network_sidebar_amneziawg_link_event_filter_add`. -/
def LinkEventFilter.add (filter : LinkEventFilter) (snapshot : Option LinkSnapshot)
    (identity : MonitoredIdentity) : LinkEventFilter :=
  if identity.IsValid then
    { names := identity.name :: filter.names
      aliases := (identity.linkToken.map linkAliasOf).toList ++ filter.aliases
      indices := (if identity.ifindex ≠ 0 then [identity.ifindex] else []) ++
        (match snapshot with
          | none => []
          | some snapshot => snapshotIndices snapshot identity) ++ filter.indices }
  else filter

/-- The filter of a set of identities. -/
def LinkEventFilter.of (snapshot : LinkSnapshot) (identities : List MonitoredIdentity) :
    LinkEventFilter :=
  identities.foldl (fun filter identity => filter.add (some snapshot) identity) .new

/-- What a parsed message must not name for the filter to go on. -/
def LinkEventFilter.tracks (filter : LinkEventFilter) (message : LinkMessage) : Bool :=
  filter.indices.contains message.ifindex || filter.names.contains message.ifname ||
    match message.linkAlias with
    | none => false
    | some linkAlias => filter.aliases.contains linkAlias

/-- One message of `network_sidebar_amneziawg_link_event_filter_is_relevant`: nothing where the
function returns. -/
def LinkEventFilter.pass (filter : LinkEventFilter) (_ : Unit) (message : Bytes) : Option Unit :=
  if nlmsgDumpInterrupted order message then none
  else if nlmsgType order message = nlmsgNoop then some ()
  else if nlmsgType order message ≠ rtmNewlink ∧ nlmsgType order message ≠ rtmDellink then none
  else
    match parseLinkMessage order message false with
    | none => none
    | some record => if filter.tracks record then none else some ()

/-- `G_MAXINT`. -/
def maxInt : ℕ := 2147483647

/-- `network_sidebar_amneziawg_link_event_filter_is_relevant`. -/
def linkEventFilterIsRelevant (filter : Option LinkEventFilter) (data : Bytes) : Bool :=
  match filter with
  | none => true
  | some filter =>
    if data.length = 0 ∨ data.length > maxInt then true
    else ((nlmsgFormat order).walk (filter.pass order) data.length () data).isNone

/-! ## The table of links -/

/-- What a message says of a link: its index, its name if it is given, and its alias if it is
given, where an alias too long for a `LinkRecord` counts as none. -/
structure LinkChange where
  ifindex : UInt32
  ifname : Option { name : Name // name ≠ [] }
  linkAlias : Option (Option Bytes)
  ifindex_ne : ifindex ≠ 0

/-- The string of the first attribute of a kind. -/
def attributeOf (kind : ℕ) (attributes : List Bytes) : Option Bytes :=
  (attributes.find? fun rta => rtaKind order rta == kind).map attributeString

/-- The alias a `LinkRecord` has room for. -/
def recordedAlias (linkAlias : Bytes) : Option Bytes :=
  if linkAlias.length + 1 ≤ aliasSize then some linkAlias else none

/-- A message says this of a link. -/
def Reports (message : Bytes) (change : LinkChange) : Prop :=
  change.ifindex = UInt32.ofNat (ifiIndex order message) ∧
    ∃ attributes, Framed (rtattrFormat order) (message.drop 32) attributes ∧
      change.ifname.map Subtype.val = attributeOf order iflaIfname attributes ∧
      change.linkAlias = (attributeOf order iflaIfalias attributes).map recordedAlias

/-- A link after a change. -/
def LinkRecord.after (record : LinkRecord) (change : LinkChange) : LinkRecord where
  ifindex := record.ifindex
  ifname := (change.ifname.map Subtype.val).getD record.ifname
  linkAlias := change.linkAlias.getD record.linkAlias
  ifindex_ne := record.ifindex_ne
  ifname_ne := by
    cases h : change.ifname with
    | none => exact record.ifname_ne
    | some name => exact name.property

/-- A message applied to the table of links: it changes or removes what links there are of its
index, or adds a link of its index anywhere. What a message does not give stays as it is. -/
inductive Changes (message : Bytes) : LinkSnapshot → LinkSnapshot → Prop
  | noop {links : LinkSnapshot} (htype : nlmsgType order message = nlmsgNoop) :
      Changes message links links
  | changed {links : LinkSnapshot} {change : LinkChange}
      (htype : nlmsgType order message = rtmNewlink) (hreports : Reports order message change) :
      Changes message links (links.map fun record =>
        if record.ifindex = change.ifindex then record.after change else record)
  | created {before after : LinkSnapshot} {change : LinkChange} {name : { name : Name // name ≠ [] }}
      (htype : nlmsgType order message = rtmNewlink) (hreports : Reports order message change)
      (hnew : ∀ record ∈ before ++ after, record.ifindex ≠ change.ifindex)
      (hname : change.ifname = some name) :
      Changes message (before ++ after) (before ++
        ⟨change.ifindex, name, change.linkAlias.join, change.ifindex_ne, name.property⟩ :: after)
  | removed {links : LinkSnapshot} {change : LinkChange}
      (htype : nlmsgType order message = rtmDellink) (hreports : Reports order message change) :
      Changes message links (links.filter fun record => record.ifindex != change.ifindex)

/-- Steps taken one after the other, each with its cause. -/
inductive RunOf {α σ : Type} (step : α → σ → σ → Prop) : List α → σ → σ → Prop
  | nil {s : σ} : RunOf step [] s s
  | cons {a : α} {as : List α} {s s₁ s' : σ} (hstep : step a s s₁) (hrest : RunOf step as s₁ s') :
      RunOf step (a :: as) s s'

/-- A datagram applied to the table of links, message by message. -/
def AppliesDatagram (data : Bytes) (links links' : LinkSnapshot) : Prop :=
  ∃ messages, Framed (nlmsgFormat order) data messages ∧
    RunOf (Changes order) messages links links'

/-! ## What a parsed message says -/

section Messages

variable {order : ByteOrder}

theorem attributeOf_cons {kind : ℕ} {rta : Bytes} {attributes : List Bytes} :
    attributeOf order kind (rta :: attributes) =
      if rtaKind order rta = kind then some (attributeString rta)
      else attributeOf order kind attributes := by
  unfold attributeOf
  rw [List.find?_cons]
  by_cases h : rtaKind order rta = kind
  · rw [if_pos h, beq_iff_eq.mpr h]
    rfl
  · rw [if_neg h, beq_eq_false_iff_ne.mpr h]

/-- A string that fits is the alias a record has room for. -/
theorem attributeStringCopy_alias {rta : Bytes} (h : attributeStringIsValid rta = true) :
    attributeStringCopy rta aliasSize = recordedAlias (attributeString rta) := by
  have hne : rtaData rta ≠ [] := by
    intro hnil
    rw [attributeStringIsValid, hnil] at h
    simp at h
  have hlength : (attributeString rta).length + 1 = (rtaData rta).length := by
    have hpos := List.length_pos_iff.mpr hne
    rw [attributeString, List.length_dropLast]
    omega
  unfold attributeStringCopy recordedAlias
  rw [hlength, h]
  by_cases hsize : (rtaData rta).length ≤ aliasSize
  · rw [if_pos hsize, if_neg (by simpa using hsize)]
  · rw [if_neg hsize, if_pos (.inl (not_le.mp hsize))]

/-- What one attribute does to the scan. -/
inductive AttributeStep (order : ByteOrder) (scan : LinkScan) (rta : Bytes) : LinkScan → Prop
  | name (hkind : rtaKind order rta = iflaIfname) (hfirst : scan.haveName = false)
      (htype : rtaType order rta = iflaIfname) (hvalid : attributeStringIsValid rta = true)
      (hsize : (rtaData rta).length ≤ ifnameSize) (hne : attributeString rta ≠ []) :
      AttributeStep order scan rta
        { scan with haveName := true, ifname := attributeString rta }
  | linkAlias (hkind : rtaKind order rta = iflaIfalias) (hfirst : scan.haveAlias = false)
      (htype : rtaType order rta = iflaIfalias) (hvalid : attributeStringIsValid rta = true) :
      AttributeStep order scan rta
        { scan with haveAlias := true, linkAlias := recordedAlias (attributeString rta) }
  | other (hname : rtaKind order rta ≠ iflaIfname) (halias : rtaKind order rta ≠ iflaIfalias) :
      AttributeStep order scan rta scan

theorem attributeStep_of_parse {scan next : LinkScan} {rta : Bytes}
    (h : parseLinkAttribute order scan rta = some next) : AttributeStep order scan rta next := by
  unfold parseLinkAttribute at h
  split at h
  · rename_i hkind
    split at h
    · cases h
    rename_i ifname hcopy
    split at h
    · cases h
    rename_i hrefused
    obtain ⟨hfirst, htype, hne⟩ := by simpa only [not_or, not_not] using hrefused
    unfold attributeStringCopy at hcopy
    split at hcopy
    · cases hcopy
    rename_i hstring
    obtain ⟨hsize, hvalid⟩ := by simpa only [not_or] using hstring
    obtain rfl := Option.some.inj hcopy
    obtain rfl := Option.some.inj h
    exact .name hkind (by simpa using hfirst) htype (by simpa using hvalid) (not_lt.mp hsize) hne
  · rename_i hname
    split at h
    · rename_i hkind
      split at h
      · cases h
      rename_i hrefused
      obtain ⟨hfirst, htype, hvalid⟩ := by simpa only [not_or, not_not] using hrefused
      have hvalid : attributeStringIsValid rta = true := by simpa using hvalid
      rw [attributeStringCopy_alias hvalid] at h
      obtain rfl := Option.some.inj h
      exact .linkAlias hkind (by simpa using hfirst) htype hvalid
    · rename_i halias
      obtain rfl := Option.some.inj h
      exact .other hname halias

/-- What the loop over the attributes has found: at most one name and at most one alias. -/
structure Scanned (order : ByteOrder) (attributes : List Bytes) (scan scan' : LinkScan) : Prop where
  name_once : scan.haveName = true → attributeOf order iflaIfname attributes = none
  name : scan'.ifname = (attributeOf order iflaIfname attributes).getD scan.ifname
  alias_once : scan.haveAlias = true → attributeOf order iflaIfalias attributes = none
  linkAlias : scan'.linkAlias =
    ((attributeOf order iflaIfalias attributes).map recordedAlias).getD scan.linkAlias

/-- The loop over the attributes, by induction on them. -/
theorem scanned_of_foldlM {attributes : List Bytes} {scan scan' : LinkScan}
    (h : attributes.foldlM (parseLinkAttribute order) scan = some scan') :
    Scanned order attributes scan scan' := by
  induction attributes generalizing scan with
  | nil =>
    obtain rfl := Option.some.inj h
    exact ⟨fun _ => rfl, rfl, fun _ => rfl, rfl⟩
  | cons rta attributes ih =>
    obtain ⟨next, hnext, hrest⟩ := Option.bind_eq_some_iff.mp h
    obtain ⟨hname, hifname, halias, hlinkAlias⟩ := ih hrest
    have hkinds : iflaIfname ≠ iflaIfalias := by decide
    cases attributeStep_of_parse hnext with
    | name hkind hfirst _ _ _ _ =>
      have hother : rtaKind order rta ≠ iflaIfalias := by rw [hkind]; exact hkinds
      refine ⟨fun h => ?_, ?_, fun h => ?_, ?_⟩
      · rw [hfirst] at h
        cases h
      · rw [hifname, hname rfl, attributeOf_cons, if_pos hkind]
        rfl
      · rw [attributeOf_cons, if_neg hother]
        exact halias h
      · rw [hlinkAlias, attributeOf_cons, if_neg hother]
    | linkAlias hkind hfirst _ _ =>
      have hother : rtaKind order rta ≠ iflaIfname := by rw [hkind]; exact hkinds.symm
      refine ⟨fun h => ?_, ?_, fun h => ?_, ?_⟩
      · rw [attributeOf_cons, if_neg hother]
        exact hname h
      · rw [hifname, attributeOf_cons, if_neg hother]
      · rw [hfirst] at h
        cases h
      · rw [hlinkAlias, halias rfl, attributeOf_cons, if_pos hkind]
        rfl
    | other hnoName hnoAlias =>
      refine ⟨fun h => ?_, ?_, fun h => ?_, ?_⟩
      · rw [attributeOf_cons, if_neg hnoName]
        exact hname h
      · rw [hifname, attributeOf_cons, if_neg hnoName]
      · rw [attributeOf_cons, if_neg hnoAlias]
        exact halias h
      · rw [hlinkAlias, attributeOf_cons, if_neg hnoAlias]

/-- What is parsed from a message agrees with what the message reports. -/
theorem parsed_reports {message : Bytes} {requireName : Bool} {record : LinkMessage}
    {change : LinkChange} (hparse : parseLinkMessage order message requireName = some record)
    (hreports : Reports order message change) :
    record.ifindex = change.ifindex ∧
      (∀ name, change.ifname = some name → record.ifname = name.val) ∧
      ∀ linkAlias, change.linkAlias = some (some linkAlias) → record.linkAlias = some linkAlias := by
  obtain ⟨hindex, attributes, hframed, hname, halias⟩ := hreports
  unfold parseLinkMessage at hparse
  split at hparse
  · cases hparse
  dsimp only at hparse
  split at hparse
  · cases hparse
  rename_i scan hwalk
  split at hparse
  · cases hparse
  obtain rfl := Option.some.inj hparse
  rw [walk_of_framed hframed le_rfl] at hwalk
  have hscan := scanned_of_foldlM hwalk
  refine ⟨hindex.symm, fun name h => ?_, fun linkAlias h => ?_⟩
  · rw [hscan.name, ← hname, h]
    rfl
  · rw [hscan.linkAlias, ← halias, h]
    rfl

end Messages

/-! ## Views -/

/-- The links that an observation of an identity looks at. -/
def LinkSnapshot.named (links : LinkSnapshot) (name : Name) : Option LinkRecord :=
  (links.filter fun record => record.ifname == name).getLast?

/-- Two tables have the same view of an identity. -/
structure SameView (links links' : LinkSnapshot) (identity : MonitoredIdentity) : Prop where
  named : links'.named identity.name = links.named identity.name
  claimed : ∀ token ∈ identity.linkToken, links'.claimedBy token = links.claimedBy token

/-- Tables with the same view give the same observation. -/
theorem observe_of_sameView {links links' : LinkSnapshot} {identity : MonitoredIdentity}
    (h : SameView links links' identity) :
    linkSnapshotObserve links' identity.name identity.linkToken =
      linkSnapshotObserve links identity.name identity.linkToken := by
  have hnamed := h.named
  unfold LinkSnapshot.named at hnamed
  unfold linkSnapshotObserve
  rw [hnamed]
  cases htoken : identity.linkToken with
  | none => rfl
  | some token =>
    dsimp only
    rw [h.claimed token htoken]

/-- The filter covers an identity in a table: its name and alias, and every link that an
observation of it looks at. -/
structure Covers (filter : LinkEventFilter) (links : LinkSnapshot)
    (identity : MonitoredIdentity) : Prop where
  name : identity.name ∈ filter.names
  linkAlias : ∀ token ∈ identity.linkToken, linkAliasOf token ∈ filter.aliases
  named : ∀ record ∈ links.named identity.name, record.ifindex ∈ filter.indices
  claimed : ∀ token ∈ identity.linkToken, ∀ record ∈ links.claimedBy token,
    record.ifindex ∈ filter.indices

/-- A filter that covers an identity covers it as long as the view is the same. -/
theorem Covers.of_sameView {filter : LinkEventFilter} {links links' : LinkSnapshot}
    {identity : MonitoredIdentity} (h : Covers filter links identity)
    (hview : SameView links links' identity) : Covers filter links' identity := by
  refine ⟨h.name, h.linkAlias, ?_, fun token htoken => ?_⟩
  · rw [hview.named]
    exact h.named
  · rw [hview.claimed token htoken]
    exact h.claimed token htoken

/-! ## The filter of a snapshot -/

/-- Adding an identity keeps what is tracked. -/
theorem add_grows (filter : LinkEventFilter) (snapshot : Option LinkSnapshot)
    (identity : MonitoredIdentity) :
    (∀ name ∈ filter.names, name ∈ (filter.add snapshot identity).names) ∧
      (∀ linkAlias ∈ filter.aliases, linkAlias ∈ (filter.add snapshot identity).aliases) ∧
      ∀ index ∈ filter.indices, index ∈ (filter.add snapshot identity).indices := by
  unfold LinkEventFilter.add
  split
  · exact ⟨fun _ h => List.mem_cons_of_mem _ h, fun _ h => List.mem_append_right _ h,
      fun _ h => List.mem_append_right _ h⟩
  · exact ⟨fun _ h => h, fun _ h => h, fun _ h => h⟩

/-- A covered identity stays covered when others are added. -/
theorem Covers.add {filter : LinkEventFilter} {links : LinkSnapshot}
    {identity : MonitoredIdentity} (h : Covers filter links identity)
    (snapshot : Option LinkSnapshot) (other : MonitoredIdentity) :
    Covers (filter.add snapshot other) links identity := by
  obtain ⟨hnames, haliases, hindices⟩ := add_grows filter snapshot other
  exact ⟨hnames _ h.name, fun token htoken => haliases _ (h.linkAlias token htoken),
    fun record hrecord => hindices _ (h.named record hrecord),
    fun token htoken record hrecord => hindices _ (h.claimed token htoken record hrecord)⟩

/-- An identity is covered once it is added with the table. -/
theorem covers_add {filter : LinkEventFilter} {links : LinkSnapshot}
    {identity : MonitoredIdentity} (h : identity.IsValid) :
    Covers (filter.add (some links) identity) links identity := by
  have hindices : ∀ index ∈ snapshotIndices links identity,
      index ∈ (filter.add (some links) identity).indices := by
    intro index hmem
    rw [LinkEventFilter.add, if_pos h]
    exact List.mem_append_left _ (List.mem_append_right _ hmem)
  refine ⟨?_, fun token htoken => ?_, fun record hrecord => ?_,
    fun token htoken record hrecord => ?_⟩
  · rw [LinkEventFilter.add, if_pos h]
    exact List.mem_cons_self
  · rw [LinkEventFilter.add, if_pos h, show identity.linkToken = some token from htoken]
    exact List.mem_append_left _ (List.mem_singleton.mpr rfl)
  · apply hindices
    refine List.mem_map_of_mem (List.mem_append_left _ ?_)
    exact Option.mem_toList.mpr hrecord
  · apply hindices
    refine List.mem_map_of_mem (List.mem_append_right _ ?_)
    rw [show identity.linkToken = some token from htoken]
    exact hrecord

/-- The filter of a set of identities covers them all. -/
theorem covers_of {links : LinkSnapshot} {identities : List MonitoredIdentity}
    {identity : MonitoredIdentity} (hmem : identity ∈ identities) (h : identity.IsValid) :
    Covers (LinkEventFilter.of links identities) links identity := by
  have hkeep : ∀ (others : List MonitoredIdentity) (filter : LinkEventFilter),
      Covers filter links identity → Covers (others.foldl
        (fun filter identity => filter.add (some links) identity) filter) links identity := by
    intro others
    induction others with
    | nil => exact fun _ h => h
    | cons other others ih => exact fun filter h => ih _ (h.add (some links) other)
  obtain ⟨before, after, rfl⟩ := List.append_of_mem hmem
  rw [LinkEventFilter.of, List.foldl_append, List.foldl_cons]
  exact hkeep after _ (covers_add h)

/-! ## Changes that pass the filter -/

section Lists

variable {α : Type} {g : α → Option α} {fixed : α → Prop} {p : α → Bool} {xs : List α}

/-- Where everything selected is left as it is and nothing else becomes selected, the selection
stays. -/
theorem filter_filterMap_of_fixed (hfixed : ∀ a, fixed a → g a = some a)
    (hp : ∀ a b, ¬fixed a → g a = some b → p b = true → p a = true)
    (hxs : ∀ a ∈ xs, p a = true → fixed a) : (xs.filterMap g).filter p = xs.filter p := by
  induction xs with
  | nil => rfl
  | cons a xs ih =>
    have ih := ih fun b hb => hxs b (List.mem_cons_of_mem _ hb)
    by_cases ha : fixed a
    · rw [List.filterMap_cons_some (hfixed a ha), List.filter_cons, List.filter_cons, ih]
    · have hpa : p a = false := by
        by_contra hpa
        exact ha (hxs a List.mem_cons_self (by simpa using hpa))
      rw [List.filter_cons_of_neg (by simp [hpa])]
      cases hga : g a with
      | none => rw [List.filterMap_cons_none hga, ih]
      | some b =>
        have hpb : p b = false := by
          by_contra hpb
          rw [hp a b ha hga (by simpa using hpb)] at hpa
          cases hpa
        rw [List.filterMap_cons_some hga, List.filter_cons_of_neg (by simp [hpb]), ih]

/-- Where the last one selected is left as it is and nothing else becomes selected, it stays the
last one. -/
theorem getLast?_filter_filterMap (hfixed : ∀ a, fixed a → g a = some a)
    (hp : ∀ a b, ¬fixed a → g a = some b → p b = true → p a = true)
    (hxs : ∀ a ∈ (xs.filter p).getLast?, fixed a) :
    ((xs.filterMap g).filter p).getLast? = (xs.filter p).getLast? := by
  induction xs using List.reverseRecOn with
  | nil => rfl
  | append_singleton xs a ih =>
    rw [List.filterMap_append, List.filter_append, List.filter_append]
    by_cases hpa : p a = true
    · -- the last element is selected, so it is left as it is
      have ha : fixed a := hxs a (by simp [List.filter_append, hpa])
      rw [List.filterMap_cons_some (hfixed a ha), List.filterMap_nil,
        List.filter_cons_of_pos hpa, List.filter_nil, List.getLast?_concat, List.getLast?_concat]
    · have hnone : (([a].filterMap g).filter p) = [] := by
        by_cases ha : fixed a
        · rw [List.filterMap_cons_some (hfixed a ha), List.filterMap_nil,
            List.filter_cons_of_neg hpa, List.filter_nil]
        · cases hga : g a with
          | none => rw [List.filterMap_cons_none hga]; rfl
          | some b =>
            rw [List.filterMap_cons_some hga, List.filterMap_nil,
              List.filter_cons_of_neg (fun hpb => hpa (hp a b ha hga hpb)), List.filter_nil]
      rw [hnone, List.filter_cons_of_neg hpa, List.filter_nil, List.append_nil, List.append_nil]
      refine ih fun b hb => hxs b ?_
      rwa [List.filter_append, List.filter_cons_of_neg hpa, List.filter_nil, List.append_nil]

end Lists

section Passing

variable {order : ByteOrder} {filter : LinkEventFilter} {links links' : LinkSnapshot}
  {identity : MonitoredIdentity}

/-- A change of links that the filter does not track keeps the view, if it gives no link a
tracked name or alias. -/
theorem sameView_filterMap (h : Covers filter links identity)
    {g : LinkRecord → Option LinkRecord}
    (hfixed : ∀ record, record.ifindex ∈ filter.indices → g record = some record)
    (hname : ∀ record record', record.ifindex ∉ filter.indices → g record = some record' →
      record'.ifname ∈ filter.names → record'.ifname = record.ifname)
    (halias : ∀ record record', record.ifindex ∉ filter.indices → g record = some record' →
      ∀ linkAlias ∈ record'.linkAlias, linkAlias ∈ filter.aliases →
        record.linkAlias = some linkAlias) :
    SameView links (links.filterMap g) identity := by
  constructor
  · refine getLast?_filter_filterMap hfixed (fun record record' hout hg hp => ?_) h.named
    have hnamed : record'.ifname = identity.name := by simpa using hp
    have hsame := hname record record' hout hg (hnamed ▸ h.name)
    simp [← hsame, hnamed]
  · intro token htoken
    refine filter_filterMap_of_fixed hfixed (fun record record' hout hg hp => ?_) ?_
    · have hclaim : record'.linkAlias = some (linkAliasOf token) := by simpa using hp
      simp [halias record record' hout hg _ hclaim (h.linkAlias token htoken)]
    · intro record hmem hp
      exact h.claimed token htoken record (List.mem_filter.mpr ⟨hmem, hp⟩)

/-- A link that is added with no tracked name and no tracked alias keeps the view. -/
theorem sameView_insert {before after : LinkSnapshot} {record : LinkRecord}
    (h : Covers filter (before ++ after) identity) (hname : record.ifname ∉ filter.names)
    (halias : ∀ linkAlias ∈ record.linkAlias, linkAlias ∉ filter.aliases) :
    SameView (before ++ after) (before ++ record :: after) identity := by
  have hskip : ∀ {p : LinkRecord → Bool}, p record = false →
      (before ++ record :: after).filter p = (before ++ after).filter p := by
    intro p hp
    rw [List.filter_append, List.filter_append, List.filter_cons_of_neg (by simp [hp])]
  constructor
  · unfold LinkSnapshot.named
    rw [hskip]
    rw [beq_eq_false_iff_ne]
    rintro heq
    exact hname (heq ▸ h.name)
  · intro token htoken
    refine hskip ?_
    rw [beq_eq_false_iff_ne]
    intro heq
    exact halias _ heq (h.linkAlias token htoken)

/-- What the filter has not tracked in a message it does not track in what the message reports. -/
theorem untracked_change {message : Bytes} {record : LinkMessage} {change : LinkChange}
    (hparse : parseLinkMessage order message false = some record)
    (hreports : Reports order message change) (htracks : filter.tracks record = false) :
    change.ifindex ∉ filter.indices ∧
      (∀ name, change.ifname = some name → name.val ∉ filter.names) ∧
      ∀ linkAlias, change.linkAlias = some (some linkAlias) → linkAlias ∉ filter.aliases := by
  obtain ⟨hindex, hname, halias⟩ := parsed_reports hparse hreports
  simp only [LinkEventFilter.tracks, Bool.or_eq_false_iff] at htracks
  obtain ⟨⟨hindices, hnames⟩, haliases⟩ := htracks
  refine ⟨?_, fun name h => ?_, fun linkAlias h => ?_⟩
  · rw [← hindex]
    simpa using hindices
  · rw [← hname name h]
    simpa using hnames
  · rw [halias linkAlias h] at haliases
    simpa using haliases

/-- A message that passes the filter keeps the view of every covered identity. -/
theorem sameView_of_pass {message : Bytes} (h : Covers filter links identity)
    (hpass : filter.pass order () message = some ())
    (hchanges : Changes order message links links') : SameView links links' identity := by
  unfold LinkEventFilter.pass at hpass
  split at hpass
  · cases hpass
  -- a message of a link is one that was parsed and is not tracked
  have hlink : nlmsgType order message ≠ nlmsgNoop → ∀ change, Reports order message change →
      change.ifindex ∉ filter.indices ∧
      (∀ name, change.ifname = some name → name.val ∉ filter.names) ∧
      ∀ linkAlias, change.linkAlias = some (some linkAlias) → linkAlias ∉ filter.aliases := by
    intro htype change hreports
    rw [if_neg htype] at hpass
    split at hpass
    · cases hpass
    split at hpass
    · cases hpass
    rename_i record hparse
    split at hpass
    · cases hpass
    rename_i htracks
    exact untracked_change hparse hreports (by simpa using htracks)
  have htypes : rtmNewlink ≠ nlmsgNoop ∧ rtmDellink ≠ nlmsgNoop := by decide
  cases hchanges with
  | noop _ => exact ⟨rfl, fun _ _ => rfl⟩
  | @changed links change htype hreports =>
    obtain ⟨hindex, hnames, haliases⟩ := hlink (by rw [htype]; exact htypes.1) change hreports
    rw [← List.filterMap_eq_map]
    refine sameView_filterMap h (fun record hmem => ?_) (fun record record' _ hg hname => ?_)
      fun record record' _ hg linkAlias hlinkAlias haliasMem => ?_
    · have hne : record.ifindex ≠ change.ifindex := fun heq => hindex (heq ▸ hmem)
      exact congrArg some (if_neg hne)
    · obtain rfl := Option.some.inj hg
      dsimp only [Function.comp] at hname ⊢
      split at hname
      · rename_i heq
        rw [if_pos heq]
        cases hchange : change.ifname with
        | none => simp [LinkRecord.after, hchange]
        | some name =>
          refine absurd hname ?_
          simpa [LinkRecord.after, hchange] using hnames name hchange
      · rename_i hne
        rw [if_neg hne]
    · obtain rfl := Option.some.inj hg
      dsimp only [Function.comp] at hlinkAlias
      split at hlinkAlias
      · cases hchange : change.linkAlias with
        | none => simpa [LinkRecord.after, hchange] using hlinkAlias
        | some given =>
          have hgiven : given = some linkAlias := by
            simpa [LinkRecord.after, hchange] using hlinkAlias
          rw [hgiven] at hchange
          exact absurd haliasMem (haliases linkAlias hchange)
      · exact hlinkAlias
  | @created before after change name htype hreports hnew hname =>
    obtain ⟨hindex, hnames, haliases⟩ := hlink (by rw [htype]; exact htypes.1) change hreports
    refine sameView_insert h (hnames name hname) fun linkAlias hlinkAlias => ?_
    exact haliases linkAlias (Option.join_eq_some_iff.mp hlinkAlias)
  | @removed links change htype hreports =>
    obtain ⟨hindex, -, -⟩ := hlink (by rw [htype]; exact htypes.2) change hreports
    rw [← List.filterMap_eq_filter]
    refine sameView_filterMap h (fun record hmem => ?_) (fun record record' _ hg _ => ?_)
      fun record record' _ hg linkAlias hlinkAlias _ => ?_
    · have hne : record.ifindex ≠ change.ifindex := fun heq => hindex (heq ▸ hmem)
      simp [Option.guard, hne]
    · obtain ⟨rfl, -⟩ := Option.guard_eq_some_iff.mp hg
      rfl
    · obtain ⟨rfl, -⟩ := Option.guard_eq_some_iff.mp hg
      exact hlinkAlias

/-- What the filter lets pass is a sequence of whole messages that pass one by one. -/
theorem passes_of_irrelevant {data : Bytes}
    (h : linkEventFilterIsRelevant order (some filter) data = false) :
    data ≠ [] ∧ ∃ messages, Framed (nlmsgFormat order) data messages ∧
      ∀ message ∈ messages, filter.pass order () message = some () := by
  have hall : ∀ messages : List Bytes, messages.foldlM (filter.pass order) () = some () →
      ∀ message ∈ messages, filter.pass order () message = some () := by
    intro messages
    induction messages with
    | nil => simp
    | cons message messages ih =>
      intro hfold
      obtain ⟨_, hmessage, hrest⟩ := Option.bind_eq_some_iff.mp hfold
      intro other hmem
      rcases List.mem_cons.mp hmem with rfl | hmem
      · exact hmessage
      · exact ih hrest other hmem
  simp only [linkEventFilterIsRelevant] at h
  split at h
  · cases h
  rename_i hlength
  cases hwalk : (nlmsgFormat order).walk (filter.pass order) data.length () data with
  | none => simp [hwalk] at h
  | some _ =>
    obtain ⟨messages, hframed, hfold⟩ := framed_of_walk hwalk
    refine ⟨?_, messages, hframed, hall messages hfold⟩
    rintro rfl
    exact hlength (.inl rfl)

/-- A datagram that is not relevant keeps the view of every covered identity. -/
theorem sameView_of_irrelevant {data : Bytes} (h : Covers filter links identity)
    (hdata : linkEventFilterIsRelevant order (some filter) data = false)
    (happlies : AppliesDatagram order data links links') : SameView links links' identity := by
  obtain ⟨-, messages, hframed, hpass⟩ := passes_of_irrelevant hdata
  obtain ⟨messages', hframed', hrun⟩ := happlies
  obtain rfl := hframed.unique hframed'
  clear hframed hframed'
  induction hrun with
  | nil => exact ⟨rfl, fun _ _ => rfl⟩
  | @cons message messages links links₁ links' hstep _ ih =>
    have hview := sameView_of_pass h (hpass message List.mem_cons_self) hstep
    have hrest := ih (h.of_sameView hview) fun other hmem => hpass other (List.mem_cons_of_mem _ hmem)
    exact ⟨hrest.named.trans hview.named,
      fun token htoken => (hrest.claimed token htoken).trans (hview.claimed token htoken)⟩

/-- So do any number of them. -/
theorem sameView_of_run {datagrams : List Bytes} (h : Covers filter links identity)
    (hdata : ∀ data ∈ datagrams, linkEventFilterIsRelevant order (some filter) data = false)
    (hrun : RunOf (AppliesDatagram order) datagrams links links') :
    SameView links links' identity := by
  induction hrun with
  | nil => exact ⟨rfl, fun _ _ => rfl⟩
  | @cons data datagrams links links₁ links' hstep _ ih =>
    have hview := sameView_of_irrelevant h (hdata data List.mem_cons_self) hstep
    have hrest := ih (h.of_sameView hview) fun other hmem => hdata other (List.mem_cons_of_mem _ hmem)
    exact ⟨hrest.named.trans hview.named,
      fun token htoken => (hrest.claimed token htoken).trans (hview.claimed token htoken)⟩

end Passing

/-! ## Well-formed datagrams -/

/-- The attributes of a message of a link: at most one name and at most one alias, each a string
with a final zero and no other, under its own type; the name is neither empty nor too long. -/
structure WellFormedAttributes (order : ByteOrder) (attributes : List Bytes) : Prop where
  name : ∀ rta ∈ attributes, rtaKind order rta = iflaIfname →
    rtaType order rta = iflaIfname ∧ attributeStringIsValid rta = true ∧
      (rtaData rta).length ≤ ifnameSize ∧ attributeString rta ≠ []
  linkAlias : ∀ rta ∈ attributes, rtaKind order rta = iflaIfalias →
    rtaType order rta = iflaIfalias ∧ attributeStringIsValid rta = true
  once : ∀ kind ∈ [iflaIfname, iflaIfalias],
    (attributes.filter fun rta => rtaKind order rta == kind).length ≤ 1

/-- A message of a link: it has a header, a positive index and well-formed attributes. -/
structure WellFormedLink (order : ByteOrder) (message : Bytes) : Prop where
  length : 32 ≤ message.length
  index : 0 < ifiIndex order message ∧ ifiIndex order message < 2 ^ 31
  attributes : ∃ attributes, Framed (rtattrFormat order) (message.drop 32) attributes ∧
    WellFormedAttributes order attributes

/-- A datagram that is expected: whole messages of links, or empty ones, and no sign of an
interrupted dump. -/
def WellFormedDatagram (order : ByteOrder) (data : Bytes) : Prop :=
  data ≠ [] ∧ ∃ messages, Framed (nlmsgFormat order) data messages ∧
    ∀ message ∈ messages, nlmsgDumpInterrupted order message = false ∧
      (nlmsgType order message = nlmsgNoop ∨
        (nlmsgType order message = rtmNewlink ∨ nlmsgType order message = rtmDellink) ∧
          WellFormedLink order message)

section WellFormed

variable {order : ByteOrder}

theorem attributeOf_eq_none {kind : ℕ} {attributes : List Bytes}
    (h : attributeOf order kind attributes = none) :
    (attributes.filter fun rta => rtaKind order rta == kind) = [] := by
  rw [List.filter_eq_nil_iff]
  exact List.find?_eq_none.mp (Option.map_eq_none_iff.mp h)

/-- The loop over the attributes accepts only well-formed ones. -/
theorem wellFormedAttributes_of_foldlM {attributes : List Bytes} {scan scan' : LinkScan}
    (h : attributes.foldlM (parseLinkAttribute order) scan = some scan') :
    WellFormedAttributes order attributes := by
  induction attributes generalizing scan with
  | nil => exact ⟨by simp, by simp, by simp⟩
  | cons rta attributes ih =>
    obtain ⟨next, hnext, hrest⟩ := Option.bind_eq_some_iff.mp h
    obtain ⟨hname, halias, honce⟩ := ih hrest
    have hscan := scanned_of_foldlM hrest
    have hstep := attributeStep_of_parse hnext
    have hkinds : iflaIfname ≠ iflaIfalias := by decide
    refine ⟨fun other hmem hkind => ?_, fun other hmem hkind => ?_, fun kind hmem => ?_⟩
    · rcases List.mem_cons.mp hmem with rfl | hmem
      · cases hstep with
        | name _ _ htype hvalid hsize hne => exact ⟨htype, hvalid, hsize, hne⟩
        | linkAlias hkind' _ _ _ => exact absurd (hkind.symm.trans hkind') hkinds
        | other hnoName _ => exact absurd hkind hnoName
      · exact hname other hmem hkind
    · rcases List.mem_cons.mp hmem with rfl | hmem
      · cases hstep with
        | name hkind' _ _ _ _ _ => exact absurd (hkind'.symm.trans hkind) hkinds
        | linkAlias _ _ htype hvalid => exact ⟨htype, hvalid⟩
        | other _ hnoAlias => exact absurd hkind hnoAlias
      · exact halias other hmem hkind
    · by_cases hkind : rtaKind order rta = kind
      · -- after an attribute of this kind there is no other one
        have hnone : attributeOf order kind attributes = none := by
          cases hstep with
          | name hkind' _ _ _ _ _ =>
            obtain rfl := hkind'.symm.trans hkind
            exact hscan.name_once rfl
          | linkAlias hkind' _ _ _ =>
            obtain rfl := hkind'.symm.trans hkind
            exact hscan.alias_once rfl
          | other hnoName hnoAlias =>
            rw [hkind] at hnoName hnoAlias
            simp [hnoName, hnoAlias] at hmem
        rw [List.filter_cons_of_pos (by simpa using hkind), attributeOf_eq_none hnone]
        exact le_rfl
      · rw [List.filter_cons_of_neg (by simpa using hkind)]
        exact honce kind hmem

/-- A message that is parsed is well formed. -/
theorem wellFormedLink_of_parse {message : Bytes} {requireName : Bool} {record : LinkMessage}
    (h : parseLinkMessage order message requireName = some record) :
    WellFormedLink order message := by
  unfold parseLinkMessage at h
  split at h
  · cases h
  rename_i hrefused
  obtain ⟨hlength, hzero, hindex⟩ := by simpa only [not_or] using hrefused
  dsimp only at h
  split at h
  · cases h
  rename_i scan hwalk
  obtain ⟨attributes, hframed, hfold⟩ := framed_of_walk hwalk
  exact ⟨not_lt.mp hlength, ⟨Nat.pos_of_ne_zero hzero, not_le.mp hindex⟩, attributes, hframed,
    wellFormedAttributes_of_foldlM hfold⟩

/-- A datagram that is not relevant is well formed. -/
theorem wellFormedDatagram_of_irrelevant {filter : LinkEventFilter} {data : Bytes}
    (h : linkEventFilterIsRelevant order (some filter) data = false) :
    WellFormedDatagram order data := by
  obtain ⟨hne, messages, hframed, hpass⟩ := passes_of_irrelevant h
  refine ⟨hne, messages, hframed, fun message hmem => ?_⟩
  have hmessage := hpass message hmem
  unfold LinkEventFilter.pass at hmessage
  split at hmessage
  · cases hmessage
  rename_i hinterrupted
  refine ⟨by simpa using hinterrupted, ?_⟩
  split at hmessage
  · exact .inl ‹_›
  split at hmessage
  · cases hmessage
  rename_i htype
  split at hmessage
  · cases hmessage
  rename_i record hparse
  refine .inr ⟨?_, wellFormedLink_of_parse hparse⟩
  rwa [not_and_or, not_not, not_not] at htype

end WellFormed

/-! ## What the filter guarantees -/

/-- Datagrams that the filter of a table judges not relevant leave every tracked observation, and
with it every classification, as it was in the table, when their messages are applied to it. A
datagram that is not well formed is relevant. -/
theorem ignored_linkEvents (order : ByteOrder) :
    (∀ (links links' : LinkSnapshot) (identities : List MonitoredIdentity)
      (datagrams : List Bytes),
      (∀ data ∈ datagrams, linkEventFilterIsRelevant order
        (some (LinkEventFilter.of links identities)) data = false) →
      RunOf (AppliesDatagram order) datagrams links links' →
      ∀ identity ∈ identities, identity.IsValid →
        linkSnapshotObserve links' identity.name identity.linkToken =
          linkSnapshotObserve links identity.name identity.linkToken ∧
        ∀ hasMarker isValid marker,
          runtimeStateClassify hasMarker isValid marker
              (linkSnapshotObserve links' identity.name identity.linkToken) =
            runtimeStateClassify hasMarker isValid marker
              (linkSnapshotObserve links identity.name identity.linkToken)) ∧
    ∀ (filter : LinkEventFilter) (data : Bytes), ¬WellFormedDatagram order data →
      linkEventFilterIsRelevant order (some filter) data = true := by
  refine ⟨fun links links' identities datagrams hdata hrun identity hmem hvalid => ?_,
    fun filter data hdata => ?_⟩
  · have hview := sameView_of_run (covers_of hmem hvalid) hdata hrun
    refine ⟨observe_of_sameView hview, fun hasMarker isValid marker => ?_⟩
    rw [observe_of_sameView hview]
  · by_contra hirrelevant
    exact hdata (wellFormedDatagram_of_irrelevant (by simpa using hirrelevant))

/-- A message of a link with an index below 256, in the little order. -/
def linkEvent (type index : UInt8) (attributes : Bytes) : Bytes :=
  [UInt8.ofNat (32 + attributes.length), 0, 0, 0, type, 0, 0, 0, 0, 0, 0, 0, 0, 0, 0, 0] ++
    [0, 0, 0, 0, index, 0, 0, 0, 0, 0, 0, 0, 0, 0, 0, 0] ++ attributes

/-- The name `b` as an attribute. -/
def nameAttribute : Bytes := [6, 0, 3, 0, 0x62, 0, 0, 0]

/-- The link `b` goes away. -/
def removalEvent : Bytes := linkEvent 17 8 nameAttribute

theorem framed_removalEvent : Framed (nlmsgFormat .little) removalEvent [removalEvent] :=
  @framed_of_next (nlmsgFormat .little) removalEvent 40 [] (by decide) (by decide) .nil

theorem reports_removalEvent :
    Reports .little removalEvent ⟨8, some ⟨ascii "b", by decide⟩, none, by decide⟩ :=
  ⟨by decide, [nameAttribute.take 6],
    @framed_of_next (rtattrFormat .little) nameAttribute 6 [] (by decide) (by decide) .nil,
    by decide, rfl⟩

/-- The link `a` of a session. -/
def sessionLink (linkAlias : Option Bytes) : LinkRecord :=
  ⟨7, ascii "a", linkAlias, by decide, by decide⟩

/-- A table with this link and a link `b`. -/
def sampleLinks : LinkSnapshot :=
  [sessionLink none, ⟨8, ascii "b", none, by decide, by decide⟩]

/-- The link `b` goes away, which is none of a session `a`: the event is ignored, and the session
is seen as it was. A byte that is no event is not ignored. -/
theorem ignored_linkEvents_sample :
    linkSnapshotObserve (sampleLinks.filter fun record => record.ifindex != 8) (ascii "a") none =
      linkSnapshotObserve sampleLinks (ascii "a") none ∧
    linkEventFilterIsRelevant .little (some (.of sampleLinks [⟨ascii "a", none, 0⟩])) [1] =
      true := by
  have hrun : RunOf (AppliesDatagram .little) [removalEvent] sampleLinks
      (sampleLinks.filter fun record => record.ifindex != 8) :=
    .cons ⟨[removalEvent], framed_removalEvent, .cons (.removed (by decide) reports_removalEvent)
      .nil⟩ .nil
  obtain ⟨hignored, hmalformed⟩ := ignored_linkEvents .little
  constructor
  · refine (hignored sampleLinks _ [⟨ascii "a", none, 0⟩] [removalEvent] (fun data hdata => ?_) hrun
      ⟨ascii "a", none, 0⟩ (by simp) (by decide)).1
    rw [List.mem_singleton.mp hdata]
    decide +kernel
  · refine hmalformed _ _ fun ⟨hne, messages, hframed, _⟩ => ?_
    exact absurd (hframed.header_le hne) (by decide)

end NmSidebar
