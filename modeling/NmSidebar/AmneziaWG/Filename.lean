import NmSidebar.AmneziaWG.Names

/-!
# Interface names from filenames

`network_sidebar_amneziawg_interface_from_filename` of `amneziawg.c` makes an interface name of the
name of a configuration file that a user picks.
-/

namespace NmSidebar

open Text

/-! ## The function -/

/-- `g_path_get_basename`. -/
def pathGetBasename (path : Bytes) : Bytes :=
  let stripped := path.rdropWhile (· == 0x2f)
  if path = [] then ascii "." else if stripped = [] then ascii "/" else stripped.rtakeWhile (· != 0x2f)

/-- The basename up to a suffix `.conf` in any case. -/
def stemOf (basename : Bytes) : Bytes :=
  if basename.length ≥ 5 ∧ (basename.drop (basename.length - 5)).map toLower = ascii ".conf" then
    basename.take (basename.length - 5)
  else basename

/-- The separators that a name may hold. -/
def isSeparator (b : UInt8) : Bool := b == 0x5f || b == 0x2d || b == 0x2e

/-- What the loop works on: `normalized` and `pending_separator`. -/
structure Normalizer where
  name : Name
  pendingSeparator : Bool

/-- `g_string_append_c` where the name still has room. -/
def appendShort (name : Name) (b : UInt8) : Name :=
  if name.length < maxInterfaceLength then name ++ [b] else name

/-- The body of the loop. -/
def Normalizer.feed (n : Normalizer) (b : UInt8) : Normalizer :=
  if isAlnum b then
    let name :=
      if n.pendingSeparator = true ∧ n.name ≠ [] ∧ n.name.length + 1 < maxInterfaceLength then
        n.name ++ [0x2d]
      else n.name
    ⟨appendShort name b, false⟩
  else if isSeparator b = true ∧ n.name ≠ [] then ⟨appendShort n.name b, false⟩
  else if n.name ≠ [] then { n with pendingSeparator := true }
  else n

/-- `network_sidebar_amneziawg_interface_from_filename`. -/
def interfaceFromFilename (filename : Option Bytes) : Option Name :=
  match filename with
  | none => none
  | some filename =>
    if filename = [] then none
    else
      let normalized := ((stemOf (pathGetBasename filename)).foldl Normalizer.feed ⟨[], false⟩).name
      if normalized = [] then none else some normalized

/-! ## What the bytes of a name may be -/

/-- A byte that a name may hold. -/
def isSafe (b : UInt8) : Bool := isAlnum b || isSeparator b

/-- The bytes with `-` in place of each run of unsafe bytes; `inRun` says whether the byte before
them was unsafe. -/
def squeezeFrom : Bool → Bytes → Bytes
  | _, [] => []
  | inRun, b :: rest =>
    if isSafe b then b :: squeezeFrom false rest
    else if inRun then squeezeFrom true rest
    else 0x2d :: squeezeFrom true rest

/-- A stem with `-` in place of each run of unsafe bytes. -/
def squeeze (stem : Bytes) : Bytes := squeezeFrom false stem

example : squeeze (ascii "my  office.v2") = ascii "my-office.v2" := by decide

/-- A name is valid where a byte that it may hold is put behind a valid name that has room. -/
theorem nameIsValid_append {name : Name} {b : UInt8} (h : nameIsValid name = true)
    (hroom : name.length < maxInterfaceLength) (hb : isSafe b = true) :
    nameIsValid (name ++ [b]) = true := by
  obtain ⟨first, rest, rfl, -, hfirst, hrest⟩ := nameIsValid_iff.mp h
  refine nameIsValid_iff.mpr ⟨first, rest ++ [b], rfl, ?_, hfirst, fun c hc => ?_⟩
  · rw [List.length_append, List.length_singleton]
    exact hroom
  · rcases List.mem_append.mp hc with hc | hc
    · exact hrest c hc
    · rw [List.mem_singleton.mp hc]
      simpa [isSafe, isSeparator, or_assoc] using hb

theorem nameIsValid_appendShort {name : Name} {b : UInt8} (h : nameIsValid name = true)
    (hb : isSafe b = true) : nameIsValid (appendShort name b) = true := by
  unfold appendShort
  split
  · exact nameIsValid_append h ‹_› hb
  · exact h

theorem appendShort_ne_nil {name : Name} (b : UInt8) (h : name ≠ []) : appendShort name b ≠ [] := by
  unfold appendShort
  split
  · exact List.append_ne_nil_of_left_ne_nil h _
  · exact h

theorem appendShort_sublist (name : Name) (b : UInt8) :
    (appendShort name b).Sublist (name ++ [b]) := by
  unfold appendShort
  split
  · exact List.Sublist.refl _
  · exact List.sublist_append_left _ _

/-! ## The loop -/

namespace Normalizer

/-- The bytes of the name come from `pre` in order, and a `-` is still there for a separator that is
pending, and for the run of unsafe bytes that `pre` ends in. -/
structure Follows (n : Normalizer) (inRun : Bool) (pre : Bytes) : Prop where
  valid : n.name = [] ∨ nameIsValid n.name = true
  within : n.name.Sublist pre
  separated : n.pendingSeparator = true ∨ inRun = true → (n.name ++ [0x2d]).Sublist pre

variable {n : Normalizer} {inRun : Bool} {pre : Bytes} {b : UInt8}

/-- A letter or digit begins a name or goes on with it. -/
theorem Follows.alnum (h : n.Follows inRun pre) (hb : isAlnum b = true) :
    (n.feed b).Follows false (pre ++ [b]) := by
  have hsafe : isSafe b = true := by
    rw [isSafe, hb]
    rfl
  have hsingle : nameIsValid [b] = true := by
    simp [nameIsValid, maxInterfaceLength, hb]
  unfold feed
  rw [if_pos hb]
  dsimp only
  split
  · -- the separator that is pending comes first
    rename_i hpending
    obtain ⟨hpending, hne, hroom⟩ := hpending
    have hvalid := nameIsValid_append (h.valid.resolve_left hne) (Nat.lt_of_succ_lt hroom)
      (rfl : isSafe 0x2d = true)
    refine ⟨.inr (nameIsValid_appendShort hvalid hsafe), ?_, fun hnone => by simp at hnone⟩
    exact (appendShort_sublist _ b).trans ((h.separated (.inl hpending)).append_right [b])
  · refine ⟨.inr ?_, (appendShort_sublist _ b).trans (h.within.append_right [b]),
      fun hnone => by simp at hnone⟩
    rcases h.valid with hnil | hvalid
    · rw [hnil]
      exact hsingle
    · exact nameIsValid_appendShort hvalid hsafe

/-- A separator goes on with a name that has begun. -/
theorem Follows.separator (h : n.Follows inRun pre) (hb : isAlnum b = false)
    (hseparator : isSeparator b = true) : (n.feed b).Follows false (pre ++ [b]) := by
  have hsafe : isSafe b = true := by
    rw [isSafe, hseparator, Bool.or_true]
  unfold feed
  rw [if_neg (Bool.eq_false_iff.mp hb)]
  by_cases hne : n.name = []
  · rw [if_neg fun hboth => hboth.2 hne, if_neg (not_not.mpr hne)]
    refine ⟨h.valid, h.within.trans (List.sublist_append_left _ _), fun hpending => ?_⟩
    have hpending := hpending.resolve_right Bool.false_ne_true
    exact (h.separated (.inl hpending)).trans (List.sublist_append_left _ _)
  · rw [if_pos ⟨hseparator, hne⟩]
    refine ⟨.inr (nameIsValid_appendShort (h.valid.resolve_left hne) hsafe), ?_,
      fun hnone => by simp at hnone⟩
    exact (appendShort_sublist _ b).trans (h.within.append_right [b])

/-- An unsafe byte is left out; the run that it is in stands for one `-`. -/
theorem Follows.unsafeByte (h : n.Follows inRun pre) (hb : isSafe b = false) :
    (n.feed b).Follows true (if inRun then pre else pre ++ [0x2d]) := by
  obtain ⟨halnum, hseparator⟩ := Bool.or_eq_false_iff.mp hb
  have hwithin : pre.Sublist (if inRun then pre else pre ++ [0x2d]) := by
    split
    · exact List.Sublist.refl _
    · exact List.sublist_append_left _ _
  have hseparated : (n.name ++ [0x2d]).Sublist (if inRun then pre else pre ++ [0x2d]) := by
    split
    · exact h.separated (.inr ‹_›)
    · exact h.within.append_right [0x2d]
  unfold feed
  rw [if_neg (Bool.eq_false_iff.mp halnum), if_neg fun hboth => by simp [hseparator] at hboth]
  split
  · exact ⟨h.valid, h.within.trans hwithin, fun _ => hseparated⟩
  · exact ⟨h.valid, h.within.trans hwithin, fun _ => hseparated⟩

/-- The loop keeps to the bytes with their runs squeezed. -/
theorem Follows.foldl (h : n.Follows inRun pre) (stem : Bytes) :
    ∃ inRun', (stem.foldl feed n).Follows inRun' (pre ++ squeezeFrom inRun stem) := by
  induction stem generalizing n inRun pre with
  | nil =>
    refine ⟨inRun, ?_⟩
    rw [squeezeFrom, List.append_nil]
    exact h
  | cons b stem ih =>
    rw [List.foldl_cons, squeezeFrom]
    by_cases hb : isSafe b = true
    · have hnext : (n.feed b).Follows false (pre ++ [b]) := by
        by_cases halnum : isAlnum b = true
        · exact h.alnum halnum
        · have halnum := Bool.eq_false_iff.mpr halnum
          rw [isSafe, halnum, Bool.false_or] at hb
          exact h.separator halnum hb
      rw [if_pos hb, List.append_cons]
      exact ih hnext
    · have hnext := h.unsafeByte (Bool.eq_false_iff.mpr hb)
      rw [if_neg hb]
      cases inRun with
      | true => exact ih hnext
      | false =>
        obtain ⟨inRun', hlast⟩ := ih hnext
        refine ⟨inRun', ?_⟩
        rw [if_neg Bool.false_ne_true] at hlast ⊢
        rw [List.append_cons]
        exact hlast

/-- A name is begun by a letter or digit, and never given up. -/
theorem feed_name_eq_nil : (n.feed b).name = [] ↔ n.name = [] ∧ isAlnum b = false := by
  unfold feed
  by_cases halnum : isAlnum b = true
  · rw [if_pos halnum]
    refine iff_of_false ?_ fun h => absurd (h.2.symm.trans halnum) Bool.false_ne_true
    dsimp only
    split
    · exact appendShort_ne_nil b (List.append_ne_nil_of_right_ne_nil _ (List.cons_ne_nil _ _))
    · by_cases hnil : n.name = []
      · rw [hnil]
        exact List.cons_ne_nil _ _
      · exact appendShort_ne_nil b hnil
  · rw [if_neg halnum, and_iff_left (Bool.eq_false_iff.mpr halnum)]
    split
    · rename_i hboth
      exact iff_of_false (appendShort_ne_nil b hboth.2) hboth.2
    split
    · exact Iff.rfl
    · exact Iff.rfl

theorem foldl_name_eq_nil {stem : Bytes} :
    (stem.foldl feed n).name = [] ↔ n.name = [] ∧ ∀ b ∈ stem, isAlnum b = false := by
  induction stem generalizing n with
  | nil => simp
  | cons b stem ih => rw [List.foldl_cons, ih, feed_name_eq_nil, and_assoc, List.forall_mem_cons]

end Normalizer

/-- The basename of an empty filename has no letter or digit. -/
private theorem stemOf_empty : stemOf (pathGetBasename []) = ascii "." := by
  decide

/-- A filename gives no name exactly where its stem has no letter or digit. A name that it gives is
valid, and is made of bytes of the stem in order and at most one `-` for each run of unsafe
bytes. -/
theorem interfaceFromFilename_usable (filename : Bytes) :
    (interfaceFromFilename (some filename) = none ↔
      ∀ b ∈ stemOf (pathGetBasename filename), isAlnum b = false) ∧
    ∀ name, interfaceFromFilename (some filename) = some name →
      nameIsValid name = true ∧ name.Sublist (squeeze (stemOf (pathGetBasename filename))) := by
  have hnil := @Normalizer.foldl_name_eq_nil ⟨[], false⟩ (stemOf (pathGetBasename filename))
  have hstart : Normalizer.Follows ⟨[], false⟩ false [] :=
    ⟨.inl rfl, List.Sublist.refl _, fun hnone => by simp at hnone⟩
  obtain ⟨inRun, hfollows⟩ := hstart.foldl (stemOf (pathGetBasename filename))
  unfold interfaceFromFilename
  dsimp only
  by_cases hempty : filename = []
  · rw [if_pos hempty, hempty, stemOf_empty]
    exact ⟨iff_of_true rfl (by decide +kernel),
      fun name h => absurd h.symm (Option.some_ne_none _)⟩
  rw [if_neg hempty]
  split
  · rename_i hname
    exact ⟨iff_of_true rfl (hnil.mp hname).2, fun name h => absurd h.symm (Option.some_ne_none _)⟩
  · rename_i hname
    refine ⟨iff_of_false (Option.some_ne_none _) fun hnone => hname (hnil.mpr ⟨rfl, hnone⟩), ?_⟩
    rintro name ⟨⟩
    exact ⟨hfollows.valid.resolve_left hname, hfollows.within⟩

/-- Two names at the limit: the separator is left out where a letter would not fit behind it. -/
example : interfaceFromFilename (some (ascii "/etc/my office (2).CONF")) =
      some (ascii "my-office-2") ∧
    interfaceFromFilename (some (ascii "abcdefghijklmn  opq")) = some (ascii "abcdefghijklmno") ∧
    interfaceFromFilename (some (ascii "/tmp/---.conf")) = none := by decide

end NmSidebar
