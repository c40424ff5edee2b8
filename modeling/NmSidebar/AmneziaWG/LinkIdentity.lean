import NmSidebar.AmneziaWG.Names

/-!
# Link identity

What the helper and the panel learn about a session's link from one dump of the kernel's links:
the link with the expected name, and the links whose alias carries the session's token.
-/

namespace NmSidebar

open Text

/-- `G_MAXINT64`. -/
def maxInt64 : ℤ := 2 ^ 63 - 1

/-- `NetworkSidebarAmneziaWGLinkIdentity`. -/
structure LinkIdentity where
  name : Name
  linkToken : Bytes
  ifindex : UInt32
  deriving DecidableEq

/-- `LinkRecord`: one link of a dump. A dump with an index of zero or below, or with a link that
has no name, is rejected as a whole (`parse_link_message`). -/
structure LinkRecord where
  ifindex : UInt32
  ifname : Name
  linkAlias : Option Bytes
  ifindex_ne : ifindex ≠ 0
  ifname_ne : ifname ≠ []

/-- `NetworkSidebarAmneziaWGLinkSnapshot`: the links of a dump, in its order. The name and alias
tables of the source are searches of this list. -/
abbrev LinkSnapshot := List LinkRecord

/-- `NetworkSidebarAmneziaWGLinkObservation`. -/
structure LinkObservation where
  namedExists : Bool
  namedIfindex : UInt32
  tokenMatches : ℕ
  tokenIfindex : UInt32
  tokenHasExpectedName : Bool
  tokenIfname : Name
  deriving DecidableEq

/-- The observation of nothing, `(NetworkSidebarAmneziaWGLinkObservation){0}`. -/
def LinkObservation.zero : LinkObservation := ⟨false, 0, 0, 0, false, []⟩

/-- `NETWORK_SIDEBAR_AMNEZIAWG_LINK_ALIAS_PREFIX` and the token. -/
def linkAliasOf (token : Bytes) : Bytes := ascii "nm-sidebar-awg-" ++ token

/-- The records whose alias is the token's, the entry of the alias table. -/
def LinkSnapshot.claimedBy (snapshot : LinkSnapshot) (token : Bytes) : List LinkRecord :=
  snapshot.filter fun record => record.linkAlias == some (linkAliasOf token)

/-- `network_sidebar_amneziawg_link_snapshot_observe`. Of several links of one name the last
one is in the name table; of several with the alias the first one is described. -/
def linkSnapshotObserve (snapshot : LinkSnapshot) (expectedName : Name)
    (linkToken : Option Bytes) : Option LinkObservation :=
  if nameIsValid expectedName = false then none
  else if ∃ token ∈ linkToken, linkTokenIsValid token = false then none
  else
    let named := (snapshot.filter fun record => record.ifname == expectedName).getLast?
    let observation :=
      match named with
      | none => LinkObservation.zero
      | some record =>
        { LinkObservation.zero with namedExists := true, namedIfindex := record.ifindex }
    match linkToken with
    | none => some observation
    | some token =>
      match snapshot.claimedBy token with
      | [] => some observation
      | record :: others =>
        some { observation with
          tokenMatches := others.length + 1
          tokenIfindex := record.ifindex
          tokenHasExpectedName := record.ifname == expectedName
          tokenIfname := record.ifname }

/-- A link that carries the token has an index. -/
theorem tokenIfindex_ne_zero {snapshot : LinkSnapshot} {name : Name} {token : Option Bytes}
    {o : LinkObservation} (h : linkSnapshotObserve snapshot name token = some o)
    (hm : o.tokenMatches ≠ 0) : o.tokenIfindex ≠ 0 := by
  have hzero : ∀ base : LinkObservation, base.tokenMatches = 0 → some base = some o →
      o.tokenIfindex ≠ 0 := by
    rintro base hbase heq
    obtain rfl := Option.some.inj heq
    exact absurd hbase hm
  unfold linkSnapshotObserve at h
  split at h
  · cases h
  split at h
  · cases h
  dsimp only at h
  cases token with
  | none =>
    refine hzero _ ?_ h
    split <;> rfl
  | some token =>
    dsimp only at h
    split at h
    · refine hzero _ ?_ h
      split <;> rfl
    · rename_i record others _
      obtain rfl := Option.some.inj h
      exact record.ifindex_ne

/-- A name that is observed is valid, and so is a token that is asked for. -/
theorem linkSnapshotObserve_valid {snapshot : LinkSnapshot} {name : Name} {token : Option Bytes}
    {o : LinkObservation} (h : linkSnapshotObserve snapshot name token = some o) :
    nameIsValid name = true := by
  unfold linkSnapshotObserve at h
  split at h
  · cases h
  · simpa using ‹¬nameIsValid name = false›

end NmSidebar
