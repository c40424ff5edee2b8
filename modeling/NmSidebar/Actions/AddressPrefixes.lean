import NmSidebar.Actions.ProfileModel

/-!
# The prefixes of edited addresses

Which texts of addresses `sidebar_profile_set_ip` accepts. The prefix is read by `g_ascii_strtoull`,
which takes white space and a sign before the digits.
-/

namespace NmSidebar

open Text

/-! ## Numbers with a sign -/

/-- The white space that `g_ascii_strtoull` skips. -/
def isPadding (b : UInt8) : Bool := isSpace b || b == 0x0b

/-- White space, a sign and digits that `g_ascii_strtoull` reads to the end. -/
structure SignedNumeral (padding sign digits : Bytes) : Prop where
  padding : ∀ b ∈ padding, isPadding b = true
  sign : sign = [] ∨ sign = [0x2b] ∨ sign = [0x2d]
  nonempty : digits ≠ []
  numeric : ∀ b ∈ digits, isDigit b = true
  fits : readFrom 0 digits < 2 ^ 64

/-- The number that is read: a minus is taken modulo the width of a `guint64`. -/
def signedValue (sign digits : Bytes) : ℕ :=
  if sign = [0x2d] then (2 ^ 64 - readFrom 0 digits) % 2 ^ 64 else readFrom 0 digits

theorem isPadding_of_isDigit {b : UInt8} (h : isDigit b = true) : isPadding b = false := by
  rw [isPadding, isSpace_of_isDigit h, Bool.false_or, beq_eq_false_iff_ne]
  rintro rfl
  exact absurd h (by decide)

variable {padding sign digits rest : Bytes}

/-- The first byte of a sign or of digits is no white space. -/
theorem SignedNumeral.body (h : SignedNumeral padding sign digits) :
    (padding ++ sign ++ digits).dropWhile isPadding = sign ++ digits := by
  rw [List.append_assoc, List.dropWhile_append_of_pos h.padding]
  obtain ⟨first, digits, rfl⟩ := List.exists_cons_of_ne_nil h.nonempty
  have hfirst := isPadding_of_isDigit (h.numeric first List.mem_cons_self)
  rcases h.sign with rfl | rfl | rfl
  · rw [List.nil_append, List.dropWhile_cons, if_neg (Bool.eq_false_iff.mp hfirst)]
  · rfl
  · rfl

theorem takeWhile_digits (h : ∀ b ∈ digits, isDigit b = true) :
    digits.takeWhile isDigit = digits ∧ digits.dropWhile isDigit = [] :=
  ⟨List.takeWhile_eq_self_iff.mpr h, List.dropWhile_eq_nil_iff.mpr h⟩

/-- Such a text is read to its end. -/
theorem asciiStrtoull_signed (h : SignedNumeral padding sign digits) :
    asciiStrtoull (padding ++ sign ++ digits) = ⟨signedValue sign digits, [], false⟩ := by
  have hbody := h.body
  obtain ⟨htake, hdrop⟩ := takeWhile_digits h.numeric
  have hfits : ¬readFrom 0 digits ≥ 2 ^ 64 := Nat.not_le_of_lt h.fits
  unfold asciiStrtoull
  dsimp only
  have hpadding : (fun b => isSpace b || b == 0x0b) = isPadding := rfl
  rw [hpadding, hbody]
  rcases h.sign with rfl | rfl | rfl
  · obtain ⟨first, digits, rfl⟩ := List.exists_cons_of_ne_nil h.nonempty
    have hfirst := h.numeric first List.mem_cons_self
    have hminus : first ≠ 0x2d := by rintro rfl; exact absurd hfirst (by decide)
    have hplus : first ≠ 0x2b := by rintro rfl; exact absurd hfirst (by decide)
    have hunsigned : ¬(some first = some (0x2d : UInt8) ∨ some first = some (0x2b : UInt8)) := by
      simp [hminus, hplus]
    rw [List.nil_append, List.head?_cons, if_neg hunsigned, htake, hdrop,
      if_neg h.nonempty, if_neg hfits, if_neg fun hsome => hminus (Option.some.inj hsome)]
    rfl
  · have hrest : ([0x2b] ++ digits).drop 1 = digits := rfl
    have hhead : ([0x2b] ++ digits).head? = some 0x2b := rfl
    have hsigned : some (0x2b : UInt8) = some 0x2d ∨ some (0x2b : UInt8) = some 0x2b := .inr rfl
    rw [hhead, if_pos hsigned, hrest, htake, hdrop, if_neg h.nonempty, if_neg hfits,
      if_neg (by decide)]
    rfl
  · have hrest : ([0x2d] ++ digits).drop 1 = digits := rfl
    have hhead : ([0x2d] ++ digits).head? = some 0x2d := rfl
    have hsigned : some (0x2d : UInt8) = some 0x2d ∨ some (0x2d : UInt8) = some 0x2b := .inl rfl
    rw [hhead, if_pos hsigned, hrest, htake, hdrop, if_neg h.nonempty, if_neg hfits,
      if_pos rfl]
    rfl

/-- A text that is read to its end, as a number other than zero, is of that form. -/
theorem exists_signed (hunread : (asciiStrtoull rest).unread = [])
    (hfailed : (asciiStrtoull rest).failed = false) (hvalue : (asciiStrtoull rest).value ≠ 0) :
    ∃ padding sign digits, rest = padding ++ sign ++ digits ∧
      SignedNumeral padding sign digits := by
  have hsplit := List.takeWhile_append_dropWhile (p := isPadding) (l := rest)
  have hspace : ∀ b ∈ rest.takeWhile isPadding, isPadding b = true :=
    fun b hb => List.mem_takeWhile_imp hb
  have hpadding : (fun b => isSpace b || b == 0x0b) = isPadding := rfl
  unfold asciiStrtoull at hunread hfailed hvalue
  rw [hpadding] at hunread hfailed hvalue
  generalize rest.dropWhile isPadding = body at hsplit hunread hfailed hvalue
  generalize rest.takeWhile isPadding = padding at hsplit hspace
  -- the sign, if any, and what follows it
  obtain ⟨sign, digits, hbody, hsign, hdigits⟩ : ∃ sign digits, body = sign ++ digits ∧
      (sign = [] ∨ sign = [0x2b] ∨ sign = [0x2d]) ∧
        (if body.head? = some 0x2d ∨ body.head? = some 0x2b then body.drop 1 else body) =
          digits := by
    split
    · rename_i hhead
      cases body with
      | nil => simp at hhead
      | cons b body =>
        rcases hhead with hhead | hhead
        · exact ⟨[b], body, rfl, .inr (.inr (by rw [Option.some.inj hhead])), rfl⟩
        · exact ⟨[b], body, rfl, .inr (.inl (by rw [Option.some.inj hhead])), rfl⟩
    · exact ⟨[], body, rfl, .inl rfl, rfl⟩
  dsimp only at hunread hfailed hvalue
  rw [hdigits] at hunread hfailed hvalue
  refine ⟨padding, sign, digits, ?_, ?_⟩
  · rw [List.append_assoc, ← hbody, hsplit]
  · split at hunread
    · rename_i hnone
      rw [if_pos hnone] at hvalue
      exact absurd rfl hvalue
    rename_i hsome
    rw [if_neg hsome] at hfailed hvalue
    split at hunread
    · rename_i hlarge
      rw [if_pos hlarge] at hfailed
      exact absurd hfailed.symm Bool.false_ne_true
    rename_i hsmall
    have hend : digits.dropWhile isDigit = [] := by
      split at hunread <;> exact hunread
    have hall := List.dropWhile_eq_nil_iff.mp hend
    have htake := (takeWhile_digits hall).1
    rw [htake] at hsome hsmall
    exact ⟨hspace, hsign, hsome, hall, Nat.lt_of_not_le hsmall⟩

/-! ## Tokens -/

section Tokens

variable {A R X O : Type} {lib : AddressLibrary A X} {family : AddressFamily} {token : Bytes}

/-- An address of the family and a prefix in plain decimals, in range. -/
def PlainToken (lib : AddressLibrary A X) (family : AddressFamily) (token : Bytes) : Prop :=
  ∃ address digits, token = address ++ 0x2f :: digits ∧ 0x2f ∉ address ∧
    lib.familyOf address = some family ∧ digits ≠ [] ∧ (∀ b ∈ digits, isDigit b = true) ∧
      1 ≤ readFrom 0 digits ∧ readFrom 0 digits ≤ maxPrefixLength family

/-- An address of the family and a prefix with white space or a sign before its digits, which is in
range as `g_ascii_strtoull` reads it. -/
def SignedToken (lib : AddressLibrary A X) (family : AddressFamily) (token : Bytes) : Prop :=
  ∃ address padding sign digits, token = address ++ 0x2f :: (padding ++ sign ++ digits) ∧
    0x2f ∉ address ∧ lib.familyOf address = some family ∧ SignedNumeral padding sign digits ∧
      padding ++ sign ≠ [] ∧ 1 ≤ signedValue sign digits ∧
        signedValue sign digits ≤ maxPrefixLength family

/-- Digits in range are a numeral without white space and sign. -/
theorem signedNumeral_plain {digits : Bytes} (hne : digits ≠ [])
    (hdigits : ∀ b ∈ digits, isDigit b = true)
    (hrange : readFrom 0 digits ≤ maxPrefixLength family) : SignedNumeral [] [] digits where
  padding _ hmem := absurd hmem List.not_mem_nil
  sign := .inl rfl
  nonempty := hne
  numeric := hdigits
  fits := by
    have hmax : maxPrefixLength family < 2 ^ 64 := by cases family <;> decide
    exact lt_of_le_of_lt hrange hmax

/-- No token is written both ways. -/
theorem SignedToken.not_plain (h : SignedToken lib family token) : ¬PlainToken lib family token := by
  obtain ⟨address, padding, sign, digits, rfl, hslash, -, hnumeral, hfront, -⟩ := h
  rintro ⟨address', digits', heq, hslash', -, hne', hdigits', -⟩
  have hsplit : some (address, padding ++ sign ++ digits) = some (address', digits') := by
    rw [← splitFirst_append hslash, heq, splitFirst_append hslash']
  obtain ⟨-, rfl⟩ := Prod.mk.inj (Option.some.inj hsplit)
  obtain ⟨first, rest, hfirst⟩ := List.exists_cons_of_ne_nil hfront
  have hmem : first ∈ padding ++ sign := by
    rw [hfirst]
    exact List.mem_cons_self
  have hdigit := hdigits' first (List.mem_append_left digits hmem)
  -- the first byte is white space or a sign, and neither is a digit
  rcases List.mem_append.mp hmem with hpadding | hsign
  · have hspace := hnumeral.padding first hpadding
    exact absurd ((isPadding_of_isDigit hdigit).symm.trans hspace) Bool.false_ne_true
  · rcases hnumeral.sign with rfl | rfl | rfl
    · exact absurd hsign List.not_mem_nil
    · rw [List.mem_singleton.mp hsign] at hdigit
      exact absurd hdigit (by decide)
    · rw [List.mem_singleton.mp hsign] at hdigit
      exact absurd hdigit (by decide)

/-- What libnm promises of `nm_ip_address_new`: an address of the family with a prefix in range is
accepted. -/
def AddressLibrary.AcceptsInRange (lib : AddressLibrary A X) : Prop :=
  ∀ family address n, lib.familyOf address = some family → 1 ≤ n → n ≤ maxPrefixLength family →
    ∃ made, lib.newAddress family address n = .ok made

/-- A token is accepted where it is written in one of the two ways. -/
theorem parseProfileAddress_ok (hlib : lib.AcceptsInRange) :
    (∃ address, parseProfileAddress lib family token = .ok address) ↔
      PlainToken lib family token ∨ SignedToken lib family token := by
  constructor
  · rintro ⟨made, h⟩
    unfold parseProfileAddress at h
    split at h
    · cases h
    rename_i address rest hsplit
    obtain ⟨rfl, hslash⟩ := splitFirst_eq_some.mp hsplit
    split at h
    · cases h
    dsimp only at h
    split at h
    · cases h
    rename_i hchecks
    simp only [not_or, not_not, Bool.not_eq_true] at hchecks
    obtain ⟨hfamily, hfailed, -, hunread, hzero, hrange⟩ := hchecks
    obtain ⟨padding, sign, digits, rfl, hnumeral⟩ := exists_signed hunread hfailed hzero
    rw [asciiStrtoull_signed hnumeral] at hzero hrange
    have hpositive : 1 ≤ signedValue sign digits := Nat.one_le_iff_ne_zero.mpr hzero
    have hrange : signedValue sign digits ≤ maxPrefixLength family := Nat.le_of_not_lt hrange
    by_cases hfront : padding ++ sign = []
    · left
      obtain ⟨rfl, rfl⟩ := List.append_eq_nil_iff.mp hfront
      exact ⟨address, digits, rfl, hslash, hfamily, hnumeral.nonempty, hnumeral.numeric,
        hpositive, hrange⟩
    · right
      exact ⟨address, padding, sign, digits, rfl, hslash, hfamily, hnumeral, hfront, hpositive,
        hrange⟩
  · intro h
    obtain ⟨address, padding, sign, digits, rfl, hslash, hfamily, hnumeral, hpositive, hrange⟩ :
        ∃ address padding sign digits, token = address ++ 0x2f :: (padding ++ sign ++ digits) ∧
          0x2f ∉ address ∧ lib.familyOf address = some family ∧ SignedNumeral padding sign digits ∧
            1 ≤ signedValue sign digits ∧ signedValue sign digits ≤ maxPrefixLength family := by
      rcases h with ⟨address, digits, rfl, hslash, hfamily, hne, hdigits, hpositive, hrange⟩ |
        ⟨address, padding, sign, digits, rfl, hslash, hfamily, hnumeral, -, hpositive, hrange⟩
      · exact ⟨address, [], [], digits, rfl, hslash, hfamily,
          signedNumeral_plain hne hdigits hrange, hpositive, hrange⟩
      · exact ⟨address, padding, sign, digits, rfl, hslash, hfamily, hnumeral, hpositive, hrange⟩
    obtain ⟨made, hmade⟩ := hlib family address _ hfamily hpositive hrange
    have hrest : 0x2f ∉ padding ++ sign ++ digits := by
      intro hmem
      rcases List.mem_append.mp hmem with hmem | hmem
      · rcases List.mem_append.mp hmem with hmem | hmem
        · exact absurd (hnumeral.padding _ hmem) (by decide)
        · rcases hnumeral.sign with rfl | rfl | rfl <;> revert hmem <;> decide
      · exact absurd (hnumeral.numeric _ hmem) (by decide)
    have hne : padding ++ sign ++ digits ≠ [] :=
      List.append_ne_nil_of_right_ne_nil _ hnumeral.nonempty
    have hchecks : ¬(lib.familyOf address ≠ some family ∨ false = true ∨
        padding ++ sign ++ digits = [] ∨ ([] : Bytes) ≠ [] ∨ signedValue sign digits = 0 ∨
          signedValue sign digits > maxPrefixLength family) := by
      simp only [not_or, not_not, Bool.false_eq_true, not_false_eq_true, true_and]
      exact ⟨hfamily, hne, Nat.one_le_iff_ne_zero.mp hpositive, Nat.not_lt.mpr hrange⟩
    refine ⟨made, ?_⟩
    unfold parseProfileAddress
    rw [splitFirst_append hslash]
    dsimp only
    rw [if_neg hrest, asciiStrtoull_signed hnumeral, if_neg hchecks, hmade]

/-- A text is accepted where each of its tokens is. -/
theorem addAddresses_ok (hlib : lib.AcceptsInRange) {parts : List Bytes} :
    ∀ setting : IpSetting A R X, (∃ result, addAddresses lib family parts setting = .ok result) ↔
      ∀ token ∈ parts, token ≠ [] → PlainToken lib family token ∨ SignedToken lib family token := by
  induction parts with
  | nil => exact fun setting => iff_of_true ⟨setting, rfl⟩ fun _ hmem => absurd hmem List.not_mem_nil
  | cons token parts ih =>
    intro setting
    rw [addAddresses, List.forall_mem_cons]
    split
    · rename_i hempty
      rw [ih setting, and_iff_right fun hne => absurd hempty hne]
    · rename_i hne
      rw [forall_prop_of_true hne, ← parseProfileAddress_ok hlib]
      split
      · rename_i error herror
        refine iff_of_false (fun hok => ?_) fun hboth => ?_
        · obtain ⟨_, hok⟩ := hok
          cases hok
        · obtain ⟨_, hok⟩ := hboth.1
          rw [herror] at hok
          cases hok
      · rename_i address haddress
        rw [ih, haddress, and_iff_right ⟨address, rfl⟩]

/-! ## The whole function -/

/-- Every token of the text is accepted, and one of them has white space or a sign before the digits
of its prefix. -/
def SignsPrefix (lib : AddressLibrary A X) (family : AddressFamily) (text : Bytes) : Prop :=
  (∀ token ∈ splitParts text, token ≠ [] →
      PlainToken lib family token ∨ SignedToken lib family token) ∧
    ∃ token ∈ splitParts text, token ≠ [] ∧ SignedToken lib family token

/-- The function accepts a text of addresses that it has parsed. -/
def ParsesAddresses (lib : AddressLibrary A X) (family : AddressFamily) (fields : IpFields)
    (draft : IpDraft A R X O) : Prop :=
  fields.isDisabled = false ∧ profileAddresses (draft.setting family) ≠ fields.addresses ∧
    (profileSetIp lib family fields draft).1 = .ok ()

/-- What is parsed has tokens that are accepted. -/
theorem ParsesAddresses.accepted (hlib : lib.AcceptsInRange) {fields : IpFields}
    {draft : IpDraft A R X O} (h : ParsesAddresses lib family fields draft) :
    ∀ token ∈ splitParts fields.addresses, token ≠ [] →
      PlainToken lib family token ∨ SignedToken lib family token := by
  obtain ⟨hon, hchanged, hok⟩ := h
  unfold profileSetIp at hok
  dsimp only at hok
  split at hok
  · cases hok
  · rename_i setting hedit
    rw [editAddresses, if_pos (.inl hchanged), hon, if_neg Bool.false_ne_true] at hedit
    exact (addAddresses_ok hlib _).mp ⟨setting, hedit⟩

/-- Fields with nothing but addresses. -/
def addressFields (text : Bytes) : IpFields := ⟨ascii "auto", text, [], [], true⟩

/-- A draft without a setting accepts every such text. -/
theorem parsesAddresses_of_accepted (hlib : lib.AcceptsInRange) {text : Bytes} (hne : text ≠ [])
    (h : ∀ token ∈ splitParts text, token ≠ [] →
      PlainToken lib family token ∨ SignedToken lib family token) (others : O) :
    ParsesAddresses lib family (addressFields text) (⟨none, none, others⟩ : IpDraft A R X O) := by
  have hon : (addressFields text).isDisabled = false := by
    show (ascii "auto" == ascii "disabled" || ascii "auto" == ascii "ignore") = false
    decide
  have hnone : (⟨none, none, others⟩ : IpDraft A R X O).setting family = none := by
    cases family <;> rfl
  have hchanged : profileAddresses (none : Option (IpSetting A R X)) ≠ text := hne.symm
  refine ⟨hon, by rw [hnone]; exact hchanged, ?_⟩
  obtain ⟨setting, hadded⟩ := (addAddresses_ok (R := R) hlib
    { { lib.newSetting family with method := some (ascii "auto") } with addresses := [] }).mpr h
  have hedit : editAddresses lib family (addressFields text) none
      { lib.newSetting family with method := some (ascii "auto") } = .ok setting := by
    rw [editAddresses, hon, if_neg Bool.false_ne_true]
    exact (if_pos (.inl hchanged)).trans hadded
  have hgateway : checkGateway lib family (addressFields text) setting = .ok () := by
    have hmethod : (addressFields text).method ≠ ascii "manual" := by
      show ascii "auto" ≠ ascii "manual"
      decide
    have hempty : (addressFields text).gateway = [] := rfl
    rw [checkGateway, if_neg fun hboth => hmethod hboth.1,
      if_neg fun hall => hall.2.1 hempty]
  have hdns (setting : IpSetting A R X) :
      editDns lib family (addressFields text) none setting = .ok setting := by
    have hsame : profileDns (none : Option (IpSetting A R X)) = (addressFields text).dns := rfl
    rw [editDns, if_neg]
    rw [hon, not_or, not_not]
    exact ⟨hsame, Bool.false_ne_true⟩
  unfold profileSetIp
  dsimp only
  rw [hnone]
  have hdefault : (none : Option (IpSetting A R X)).getD (lib.newSetting family) =
      lib.newSetting family := rfl
  have hmethod : (addressFields text).method = ascii "auto" := rfl
  rw [hdefault, hmethod, hedit]
  dsimp only
  rw [hgateway]
  dsimp only
  rw [hdns]

/-- Whatever is parsed has plain decimals in range for its prefixes, unless every token is accepted
and one of them has white space or a sign before the digits of its prefix. -/
theorem addressPrefixes_plain (hlib : lib.AcceptsInRange) (others : O) (text : Bytes) :
    (∀ (fields : IpFields) (draft : IpDraft A R X O), fields.addresses = text →
      ParsesAddresses lib family fields draft →
        ∀ token ∈ splitParts text, token ≠ [] → PlainToken lib family token) ↔
      ¬SignsPrefix lib family text := by
  constructor
  · rintro h ⟨haccepted, token, hmem, hne, hsigned⟩
    have htext : text ≠ [] := by
      rintro rfl
      exact absurd hmem List.not_mem_nil
    have hparses : ParsesAddresses lib family (addressFields text)
        (⟨none, none, others⟩ : IpDraft A R X O) :=
      parsesAddresses_of_accepted hlib htext haccepted others
    exact hsigned.not_plain (h _ _ rfl hparses token hmem hne)
  · rintro h fields draft rfl hparses token hmem hne
    have haccepted := hparses.accepted hlib
    exact (haccepted token hmem hne).resolve_right fun hsigned =>
      h ⟨haccepted, token, hmem, hne, hsigned⟩

end Tokens

/-! ## A sign that is accepted -/

/-- Four decimal numbers with dots between them. -/
def isDottedQuad (text : Bytes) : Bool :=
  (text.splitOn 0x2e).length == 4 && (text.splitOn 0x2e).all fun part =>
    part != [] && part.all isDigit && decide (readFrom 0 part ≤ 255)

/-- A library that knows IPv4 addresses. -/
def quadLibrary : AddressLibrary Unit Unit where
  familyOf text := if isDottedQuad text then some .inet else none
  newAddress _ address n := .ok ⟨address, n, ()⟩
  canonical _ address := address
  fresh _ := ()

theorem quadLibrary_accepts : quadLibrary.AcceptsInRange := fun _ _ _ _ _ _ => ⟨_, rfl⟩

theorem signedToken_plus : SignedToken quadLibrary .inet (ascii "192.168.1.20/+24") :=
  ⟨ascii "192.168.1.20", [], [0x2b], ascii "24", by decide +kernel, by decide +kernel,
    by decide +kernel,
    ⟨by simp, .inr (.inl rfl), by decide +kernel, by decide +kernel, by decide +kernel⟩,
    by decide +kernel, by decide +kernel, by decide +kernel⟩

/-- A plus sign before the prefix is accepted. -/
theorem addressPrefixes_plus : ¬∀ (fields : IpFields) (draft : IpDraft Unit Unit Unit Unit),
    ParsesAddresses quadLibrary .inet fields draft →
      ∀ token ∈ splitParts fields.addresses, token ≠ [] → PlainToken quadLibrary .inet token := by
  intro h
  have hparts : splitParts (ascii "192.168.1.20/+24") = [ascii "192.168.1.20/+24"] := by
    decide +kernel
  have hparses : ParsesAddresses quadLibrary .inet (addressFields (ascii "192.168.1.20/+24"))
      (⟨none, none, ()⟩ : IpDraft Unit Unit Unit Unit) := by
    refine parsesAddresses_of_accepted quadLibrary_accepts (by decide) ?_ ()
    rw [hparts]
    intro token hmem _
    rw [List.mem_singleton.mp hmem]
    exact .inr signedToken_plus
  refine signedToken_plus.not_plain (h _ _ hparses _ ?_ (by decide))
  show ascii "192.168.1.20/+24" ∈ splitParts (ascii "192.168.1.20/+24")
  rw [hparts]
  exact List.mem_singleton_self _

theorem addressPrefixes_plain_sample :
    ¬SignsPrefix quadLibrary .inet (ascii "192.168.1.20/24") ∧
      ∀ (fields : IpFields) (draft : IpDraft Unit Unit Unit Unit),
        fields.addresses = ascii "192.168.1.20/24" →
          ParsesAddresses quadLibrary .inet fields draft →
            ∀ token ∈ splitParts (ascii "192.168.1.20/24"), token ≠ [] →
              PlainToken quadLibrary .inet token := by
  have hplain : ¬SignsPrefix quadLibrary .inet (ascii "192.168.1.20/24") := by
    rintro ⟨-, token, hmem, -, hsigned⟩
    have hparts : splitParts (ascii "192.168.1.20/24") = [ascii "192.168.1.20/24"] := by
      decide +kernel
    rw [hparts] at hmem
    refine hsigned.not_plain ⟨ascii "192.168.1.20", ascii "24", ?_⟩
    rw [List.mem_singleton.mp hmem]
    exact ⟨by decide +kernel, by decide +kernel, by decide +kernel, by decide +kernel,
      by decide +kernel, by decide +kernel, by decide +kernel⟩
  refine ⟨hplain, ?_⟩
  exact (addressPrefixes_plain quadLibrary_accepts () (ascii "192.168.1.20/24")).mpr hplain

end NmSidebar
