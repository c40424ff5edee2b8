import NmSidebar.Text.Utf8

/-!
# Labels

`labels.c`, as far as it shows names that come from outside. A text is shown with its control and
format characters, and the white space at its ends, written as escapes. The name of a network is
any bytes, and is shown as text, as hexadecimal digits or as both.
-/

namespace NmSidebar

open Text

/-! ## Character data -/

/-- `GUnicodeType`. -/
inductive UnicodeType where
  | control | format | unassigned | privateUse | surrogate
  | lowercaseLetter | modifierLetter | otherLetter | titlecaseLetter | uppercaseLetter
  | spacingMark | enclosingMark | nonSpacingMark
  | decimalNumber | letterNumber | otherNumber
  | connectPunctuation | dashPunctuation | closePunctuation | finalPunctuation
  | initialPunctuation | otherPunctuation | openPunctuation
  | currencySymbol | modifierSymbol | mathSymbol | otherSymbol
  | lineSeparator | paragraphSeparator | spaceSeparator
  deriving DecidableEq

/-- `unicode_category_hidden`. -/
def unicodeCategoryHidden (type : UnicodeType) : Bool :=
  type == .control || type == .format || type == .unassigned || type == .privateUse ||
    type == .surrogate || type == .lineSeparator || type == .paragraphSeparator

/-- GLib's character tables. Of them only the printable ASCII characters are fixed here. -/
structure CharacterData where
  /-- `g_unichar_type`. -/
  type : Char → UnicodeType
  /-- `g_unichar_isspace`. -/
  isSpace : Char → Bool
  type_printable : ∀ c : Char, 0x20 ≤ c.toNat → c.toNat ≤ 0x7e →
    unicodeCategoryHidden (type c) = false
  isSpace_graphic : ∀ c : Char, 0x21 ≤ c.toNat → c.toNat ≤ 0x7e → isSpace c = false

/-- The character is of a category that shows nothing. -/
def CharacterData.hidden (data : CharacterData) (c : Char) : Bool :=
  unicodeCategoryHidden (data.type c)

/-! ## Escapes -/

/-- A number in the given number of hexadecimal digits, as `%0*x` writes it where they suffice. -/
def paddedHex : ℕ → ℕ → List Char
  | 0, _ => []
  | width + 1, n => paddedHex width (n / 16) ++ [Nat.digitChar (n % 16)]

/-- `append_codepoint_escape`. -/
def codepointEscape (c : Char) : List Char :=
  if c.toNat ≤ 0xff then ['\\', 'x'] ++ paddedHex 2 c.toNat
  else if c.toNat ≤ 0xffff then ['\\', 'u'] ++ paddedHex 4 c.toNat
  else ['\\', 'U'] ++ paddedHex 8 c.toNat

/-- The escape of a character that has one of its own, and what stands for another. -/
def shortEscape (c : Char) (other : List Char) : List Char :=
  if c = '\x00' then ['\\', 'x', '0', '0']
  else if c = '\n' then ['\\', 'n']
  else if c = '\r' then ['\\', 'r']
  else if c = '\t' then ['\\', 't']
  else other

/-- One character of a displayed text. `edge` says that it stands before the first or after the last
character that is no space. -/
def displayChar (data : CharacterData) (edge : Bool) (c : Char) : List Char :=
  shortEscape c
    (if (data.isSpace c && edge) || data.hidden c then codepointEscape c else [c])

/-- The displayed text, where there is more than space in it. -/
def displayChars (data : CharacterData) (text : List Char) : List Char :=
  (text.takeWhile data.isSpace).flatMap (displayChar data true) ++
    (strip data.isSpace text).flatMap (displayChar data false) ++
      (text.rtakeWhile data.isSpace).flatMap (displayChar data true)

/-- `display_text_bytes`: with no bytes there is no character that is no space. -/
def displayTextBytes (data : CharacterData) (bytes : Bytes) (fallback : Option (List Char)) :
    List Char :=
  match utf8Decode bytes with
  | none => fallback.getD "Unknown".toList
  | some text =>
    if text.all data.isSpace then fallback.getD "Unknown".toList else displayChars data text

/-- `network_sidebar_display_text`. -/
def displayText (data : CharacterData) (value : Option Bytes) (fallback : Option (List Char)) :
    List Char :=
  match value with
  | none => fallback.getD "Unknown".toList
  | some value => displayTextBytes data (cString value) fallback

/-- `ssid_whitespace_text`, of bytes that are valid. -/
def ssidWhitespaceText (bytes : Bytes) : List Char :=
  ((utf8Decode bytes).getD []).flatMap fun c => shortEscape c (codepointEscape c)

/-! ## The name of a network -/

/-- `hex_bytes`. -/
def hexBytes (bytes : Bytes) : List Char :=
  [' '].intercalate (bytes.map fun b => paddedHex 2 b.toNat)

/-- The text that `nm_utils_ssid_to_utf8` has for the bytes, where they have no NUL in them and there
is any. It is a string of C. -/
def nmText (ssidToUtf8 : Bytes → Option (List Char)) (bytes : Bytes) : Option (List Char) :=
  if 0 ∈ bytes then none
  else ((ssidToUtf8 bytes).map (List.takeWhile (· != '\x00'))).filter (· != [])

/-- `network_sidebar_ssid_text_from_bytes`. -/
def ssidTextFromBytes (data : CharacterData) (ssidToUtf8 : Bytes → Option (List Char)) :
    Option Bytes → List Char
  | none => "Hidden network".toList
  | some bytes =>
    if bytes = [] then "Hidden network".toList
    else if (utf8Decode bytes).isNone then
      match nmText ssidToUtf8 bytes with
      | some text =>
        let safe := displayText data (some (utf8Encode text)) (some [])
        (if safe ≠ [] then safe else text) ++ " (hex: ".toList ++ hexBytes bytes ++ [')']
      | none => "Invalid UTF-8 SSID (hex: ".toList ++ hexBytes bytes ++ [')']
    else
      let safe := displayTextBytes data bytes (some [])
      if safe ≠ [] then safe else ssidWhitespaceText bytes

/-! ## Graphic characters -/

/-- The character is an ASCII character with a glyph. -/
def Graphic (c : Char) : Prop := 0x21 ≤ c.toNat ∧ c.toNat ≤ 0x7e

instance : DecidablePred Graphic := fun _ => inferInstanceAs (Decidable (_ ∧ _))

theorem Graphic.isSpace {data : CharacterData} {c : Char} (h : Graphic c) :
    data.isSpace c = false :=
  data.isSpace_graphic c h.1 h.2

theorem Graphic.hidden {data : CharacterData} {c : Char} (h : Graphic c) :
    data.hidden c = false :=
  data.type_printable c (by have := h.1; omega) h.2

theorem graphic_digitChar {n : ℕ} (h : n < 16) : Graphic (Nat.digitChar n) := by
  have hall : ∀ m < 16, Graphic (Nat.digitChar m) := by decide
  exact hall n h

theorem graphic_of_mem_paddedHex {width n : ℕ} {d : Char} (h : d ∈ paddedHex width n) :
    Graphic d := by
  induction width generalizing n with
  | zero => exact absurd h List.not_mem_nil
  | succ width ih =>
    obtain h | h := List.mem_append.mp h
    · exact ih h
    · rw [List.mem_singleton.mp h]
      exact graphic_digitChar (Nat.mod_lt n (by decide))

theorem graphic_of_mem_codepointEscape {c d : Char} (h : d ∈ codepointEscape c) : Graphic d := by
  have hlead (mark : Char) (hmark : Graphic mark) {width : ℕ}
      (h : d ∈ ['\\', mark] ++ paddedHex width c.toNat) : Graphic d := by
    simp only [List.cons_append, List.nil_append, List.mem_cons] at h
    obtain rfl | rfl | h := h
    · decide
    · exact hmark
    · exact graphic_of_mem_paddedHex h
  unfold codepointEscape at h
  split at h
  · exact hlead 'x' (by decide) h
  split at h
  · exact hlead 'u' (by decide) h
  · exact hlead 'U' (by decide) h

/-- The character has no escape of its own. -/
def Unnamed (c : Char) : Prop := c ≠ '\x00' ∧ c ≠ '\n' ∧ c ≠ '\r' ∧ c ≠ '\t'

theorem Graphic.unnamed {c : Char} (h : Graphic c) : Unnamed c := by
  refine ⟨?_, ?_, ?_, ?_⟩ <;> rintro rfl <;> exact absurd h (by decide)

/-- An escape is of graphic characters, and what is not escaped has no escape of its own. -/
theorem mem_shortEscape {c d : Char} {other : List Char} (h : d ∈ shortEscape c other) :
    Graphic d ∨ Unnamed c ∧ d ∈ other := by
  have hgraphic {text : List Char} (hmem : d ∈ text) (hall : ∀ c ∈ text, Graphic c) : Graphic d :=
    hall d hmem
  unfold shortEscape at h
  split at h
  · exact .inl (hgraphic h (forall_char (by decide +kernel)))
  split at h
  · exact .inl (hgraphic h (forall_char (by decide +kernel)))
  split at h
  · exact .inl (hgraphic h (forall_char (by decide +kernel)))
  split at h
  · exact .inl (hgraphic h (forall_char (by decide +kernel)))
  · exact .inr ⟨⟨‹_›, ‹_›, ‹_›, ‹_›⟩, h⟩

theorem shortEscape_ne_nil {c : Char} {other : List Char} (h : other ≠ []) :
    shortEscape c other ≠ [] := by
  unfold shortEscape
  repeat' split
  all_goals first | exact h | exact List.cons_ne_nil _ _

theorem shortEscape_of_unnamed {c : Char} (h : Unnamed c) (other : List Char) :
    shortEscape c other = other := by
  rw [shortEscape, if_neg h.1, if_neg h.2.1, if_neg h.2.2.1, if_neg h.2.2.2]

theorem codepointEscape_ne_nil (c : Char) : codepointEscape c ≠ [] := by
  unfold codepointEscape
  repeat' split
  all_goals exact List.cons_ne_nil _ _

/-! ## What is displayed -/

/-- The character is displayed as it is, but for a space at an edge. -/
structure Kept (data : CharacterData) (c : Char) : Prop where
  unnamed : Unnamed c
  visible : data.hidden c = false

theorem Graphic.kept {data : CharacterData} {c : Char} (h : Graphic c) : Kept data c :=
  ⟨h.unnamed, h.hidden⟩

/-- A character of what is displayed for one is of an escape or is that one. -/
theorem mem_displayChar {data : CharacterData} {edge : Bool} {c d : Char}
    (h : d ∈ displayChar data edge c) :
    Graphic d ∨ d = c ∧ Kept data c ∧ (edge = true → data.isSpace c = false) := by
  obtain hgraphic | ⟨hunnamed, h⟩ := mem_shortEscape h
  · exact .inl hgraphic
  split at h
  · exact .inl (graphic_of_mem_codepointEscape h)
  · rename_i hplain
    rw [Bool.or_eq_true, not_or, Bool.and_eq_true, not_and] at hplain
    refine .inr ⟨List.mem_singleton.mp h, ⟨hunnamed, Bool.eq_false_iff.mpr hplain.2⟩, ?_⟩
    intro hedge
    exact Bool.eq_false_iff.mpr fun hspace => hplain.1 hspace hedge

theorem displayChar_ne_nil (data : CharacterData) (edge : Bool) (c : Char) :
    displayChar data edge c ≠ [] := by
  apply shortEscape_ne_nil
  split
  · exact codepointEscape_ne_nil c
  · exact List.cons_ne_nil c []

theorem displayChar_of_kept {data : CharacterData} {c : Char} (h : Kept data c) :
    displayChar data false c = [c] := by
  rw [displayChar, shortEscape_of_unnamed h.unnamed, Bool.and_false, Bool.false_or,
    if_neg (Bool.eq_false_iff.mp h.visible)]

/-- At an edge, and for a character that is no space, no space is displayed. -/
theorem isSpace_of_mem_displayChar {data : CharacterData} {edge : Bool} {c d : Char}
    (h : d ∈ displayChar data edge c) (hc : edge = true ∨ data.isSpace c = false) :
    data.isSpace d = false := by
  obtain hgraphic | ⟨rfl, -, hedge⟩ := mem_displayChar h
  · exact hgraphic.isSpace
  · exact hc.elim hedge id

theorem kept_of_mem_displayChar {data : CharacterData} {edge : Bool} {c d : Char}
    (h : d ∈ displayChar data edge c) : Kept data d := by
  obtain hgraphic | ⟨rfl, hkept, -⟩ := mem_displayChar h
  · exact hgraphic.kept
  · exact hkept

theorem kept_of_mem_displayChars {data : CharacterData} {text : List Char} {d : Char}
    (h : d ∈ displayChars data text) : Kept data d := by
  simp only [displayChars, List.mem_append, List.mem_flatMap] at h
  obtain (⟨c, -, h⟩ | ⟨c, -, h⟩) | ⟨c, -, h⟩ := h <;> exact kept_of_mem_displayChar h

/-- The text is displayed as it is. -/
structure PlainText (data : CharacterData) (text : List Char) : Prop where
  ne_nil : text ≠ []
  head : ∀ c ∈ text.head?, data.isSpace c = false
  last : ∀ c ∈ text.getLast?, data.isSpace c = false
  kept : ∀ c ∈ text, Kept data c

instance (data : CharacterData) (text : List Char) : Decidable (PlainText data text) :=
  decidable_of_iff
    (text.isEmpty = false ∧ (text.head?.all fun c => !data.isSpace c) = true ∧
      (text.getLast?.all fun c => !data.isSpace c) = true ∧
        (text.all fun c => (c != '\x00' && c != '\n' && c != '\r' && c != '\t') &&
          !data.hidden c) = true) (by
    simp only [List.isEmpty_eq_false_iff, Option.all_eq_true, List.all_eq_true, Bool.not_eq_true',
      Bool.and_eq_true, bne_iff_ne]
    constructor
    · rintro ⟨hne, hhead, hlast, hkept⟩
      refine ⟨hne, fun c hc => hhead c hc, fun c hc => hlast c hc, fun c hc => ?_⟩
      obtain ⟨⟨⟨⟨hzero, hline⟩, hreturn⟩, htab⟩, hvisible⟩ := hkept c hc
      exact ⟨⟨hzero, hline, hreturn, htab⟩, hvisible⟩
    · rintro ⟨hne, hhead, hlast, hkept⟩
      refine ⟨hne, fun c hc => hhead c hc, fun c hc => hlast c hc, fun c hc => ?_⟩
      obtain ⟨⟨hzero, hline, hreturn, htab⟩, hvisible⟩ := hkept c hc
      exact ⟨⟨⟨⟨hzero, hline⟩, hreturn⟩, htab⟩, hvisible⟩)

/-- Such a text is not only of spaces. -/
theorem PlainText.all_isSpace {data : CharacterData} {text : List Char} (h : PlainText data text) :
    text.all data.isSpace = false := by
  obtain ⟨c, rest, rfl⟩ := List.exists_cons_of_ne_nil h.ne_nil
  rw [List.all_cons, h.head c rfl, Bool.false_and]

/-- A text that is to be displayed as it is, is. -/
theorem PlainText.displayChars {data : CharacterData} {text : List Char}
    (h : PlainText data text) : displayChars data text = text := by
  have hleading : text.takeWhile data.isSpace = [] := by
    obtain ⟨c, rest, rfl⟩ := List.exists_cons_of_ne_nil h.ne_nil
    rw [List.takeWhile_cons, h.head c rfl]
    rfl
  have htrailing : text.rtakeWhile data.isSpace = [] := by
    rw [List.rtakeWhile_eq_nil_iff]
    intro hne
    rw [h.last _ (List.getLast?_eq_some_getLast hne)]
    exact Bool.false_ne_true
  have hmiddle : strip data.isSpace text = text := by
    have hstart : text.dropWhile data.isSpace = text := by
      have happend := List.takeWhile_append_dropWhile (p := data.isSpace) (l := text)
      rwa [hleading, List.nil_append] at happend
    rw [strip, hstart, List.rdropWhile_eq_self_iff]
    intro hne
    rw [h.last _ (List.getLast?_eq_some_getLast hne)]
    exact Bool.false_ne_true
  rw [NmSidebar.displayChars, hleading, htrailing, hmiddle, List.flatMap_nil, List.nil_append,
    List.append_nil]
  calc text.flatMap (displayChar data false) = text.flatMap ([·]) :=
        List.flatMap_congr fun c hc => displayChar_of_kept (h.kept c hc)
    _ = text := List.flatMap_singleton' text

/-- What is left of a text that is more than space ends in characters that are no space. -/
theorem strip_edges {p : Char → Bool} {text : List Char} (h : text.all p = false) :
    strip p text ≠ [] ∧ (∀ c ∈ (strip p text).head?, p c = false) ∧
      ∀ c ∈ (strip p text).getLast?, p c = false := by
  obtain ⟨d, hd, hpd⟩ := List.all_eq_false.mp h
  have hleft : d ∈ text.dropWhile p := by
    have hmem : d ∈ text.takeWhile p ++ text.dropWhile p := by
      rwa [List.takeWhile_append_dropWhile]
    refine (List.mem_append.mp hmem).resolve_left ?_
    intro htake
    exact hpd (List.mem_takeWhile_imp htake)
  refine ⟨?_, ?_, ?_⟩
  · intro hnil
    exact hpd (List.rdropWhile_eq_nil_iff.mp hnil d hleft)
  · intro c hc
    have hself := dropWhile_rdropWhile p (List.dropWhile_idempotent p text)
    have hnot := List.head?_dropWhile_not p ((text.dropWhile p).rdropWhile p)
    rw [hself] at hnot
    rw [Option.mem_def] at hc
    unfold strip at hc
    rw [hc] at hnot
    simpa using hnot
  · intro c hc
    obtain ⟨hne, rfl⟩ := List.mem_getLast?_eq_getLast hc
    exact Bool.eq_false_iff.mpr (List.rdropWhile_last_not p _ hne)

/-- What is written for a text starts with what is written for its first character. -/
theorem mem_head_flatMap {f : Char → List Char} (hf : ∀ c, f c ≠ []) {text : List Char} {d : Char}
    (h : d ∈ (text.flatMap f).head?) : ∃ c ∈ text.head?, d ∈ f c := by
  cases text with
  | nil => exact absurd h (Option.not_mem_none d)
  | cons c text =>
    obtain ⟨e, rest, he⟩ := List.exists_cons_of_ne_nil (hf c)
    rw [List.flatMap_cons, he] at h
    obtain rfl : e = d := Option.some.inj h
    exact ⟨c, rfl, he ▸ List.mem_cons_self⟩

/-- What is written for a text ends with what is written for its last character. -/
theorem mem_getLast_flatMap {f : Char → List Char} (hf : ∀ c, f c ≠ []) {text : List Char}
    {d : Char} (h : d ∈ (text.flatMap f).getLast?) : ∃ c ∈ text.getLast?, d ∈ f c := by
  rw [← List.head?_reverse, List.reverse_flatMap] at h
  obtain ⟨c, hc, hd⟩ := mem_head_flatMap (fun c => List.reverse_ne_nil_iff.mpr (hf c)) h
  exact ⟨c, List.head?_reverse ▸ hc, List.mem_reverse.mp hd⟩

/-- What is displayed of a text that is more than space would be displayed as it is. -/
theorem plainText_displayChars {data : CharacterData} {text : List Char}
    (h : text.all data.isSpace = false) : PlainText data (displayChars data text) := by
  obtain ⟨hne, hhead, hlast⟩ := strip_edges h
  have hedge (part : List Char) {d : Char} (hd : d ∈ part.flatMap (displayChar data true)) :
      data.isSpace d = false := by
    obtain ⟨c, -, hd⟩ := List.mem_flatMap.mp hd
    exact isSpace_of_mem_displayChar hd (.inl rfl)
  have hmiddle : (strip data.isSpace text).flatMap (displayChar data false) ≠ [] := by
    obtain ⟨c, rest, hc⟩ := List.exists_cons_of_ne_nil hne
    rw [hc, List.flatMap_cons]
    exact List.append_ne_nil_of_left_ne_nil (displayChar_ne_nil data false c) _
  unfold displayChars
  refine ⟨?_, ?_, ?_, fun c hc => kept_of_mem_displayChars hc⟩
  · exact List.append_ne_nil_of_left_ne_nil (List.append_ne_nil_of_right_ne_nil _ hmiddle) _
  · intro c hc
    rw [List.append_assoc, List.head?_append, List.head?_append_of_ne_nil _ hmiddle,
      Option.mem_def, Option.or_eq_some_iff] at hc
    obtain hc | ⟨-, hc⟩ := hc
    · exact hedge _ (List.mem_of_mem_head? hc)
    · obtain ⟨d, hd, hc⟩ := mem_head_flatMap (displayChar_ne_nil data false) hc
      exact isSpace_of_mem_displayChar hc (.inr (hhead d hd))
  · intro c hc
    rw [List.getLast?_append, List.getLast?_append_of_ne_nil _ hmiddle,
      Option.mem_def, Option.or_eq_some_iff] at hc
    obtain hc | ⟨-, hc⟩ := hc
    · exact hedge _ (List.mem_of_mem_getLast? hc)
    · obtain ⟨d, hd, hc⟩ := mem_getLast_flatMap (displayChar_ne_nil data false) hc
      exact isSpace_of_mem_displayChar hc (.inr (hlast d hd))

/-- A displayed text is its fallback, or would be displayed as it is. -/
theorem displayTextBytes_plain (data : CharacterData) (bytes : Bytes)
    (fallback : Option (List Char)) :
    displayTextBytes data bytes fallback = fallback.getD "Unknown".toList ∨
      PlainText data (displayTextBytes data bytes fallback) := by
  unfold displayTextBytes
  split
  · exact .inl rfl
  split
  · exact .inl rfl
  · exact .inr (plainText_displayChars (Bool.eq_false_iff.mpr ‹_›))

/-- Displaying a displayed text changes nothing. -/
theorem PlainText.displayTextBytes {data : CharacterData} {text : List Char}
    (h : PlainText data text) (fallback : Option (List Char)) :
    displayTextBytes data (utf8Encode text) fallback = text := by
  rw [NmSidebar.displayTextBytes, utf8Decode_utf8Encode]
  exact (if_neg (Bool.eq_false_iff.mp h.all_isSpace)).trans h.displayChars

/-! ## The name of a network is visible -/

/-- There is something to see, and nothing is hidden. -/
structure VisibleText (data : CharacterData) (text : List Char) : Prop where
  ne_nil : text ≠ []
  visible : ∀ c ∈ text, data.hidden c = false

theorem PlainText.visibleText {data : CharacterData} {text : List Char}
    (h : PlainText data text) : VisibleText data text :=
  ⟨h.ne_nil, fun c hc => (h.kept c hc).visible⟩

/-- The bytes are no text, and what the library makes of them is of spaces only, with a hidden one
among them. -/
def ConvertedToHiddenSpace (data : CharacterData) (ssidToUtf8 : Bytes → Option (List Char))
    (ssid : Option Bytes) : Prop :=
  ∃ bytes text, ssid = some bytes ∧ utf8Decode bytes = none ∧ nmText ssidToUtf8 bytes = some text ∧
    text.all data.isSpace = true ∧ ∃ c ∈ text, data.hidden c = true

/-- The printable characters are visible. -/
theorem hidden_of_printable (data : CharacterData) {text : List Char}
    (h : ∀ c ∈ text, 0x20 ≤ c.toNat ∧ c.toNat ≤ 0x7e) : ∀ c ∈ text, data.hidden c = false :=
  fun c hc => data.type_printable c (h c hc).1 (h c hc).2

theorem hidden_parenthesis (data : CharacterData) : ∀ c ∈ [')'], data.hidden c = false := by
  intro c hc
  rw [List.mem_singleton.mp hc]
  exact data.type_printable ')' (by decide) (by decide)

/-- The digits of bytes are graphic, with blanks between them. -/
theorem mem_hexBytes {bytes : Bytes} {c : Char} (h : c ∈ hexBytes bytes) : c = ' ' ∨ Graphic c := by
  unfold hexBytes at h
  induction bytes with
  | nil => exact absurd h List.not_mem_nil
  | cons b bytes ih =>
    cases bytes with
    | nil =>
      rw [List.map_cons, List.map_nil, List.intercalate_singleton] at h
      exact .inr (graphic_of_mem_paddedHex h)
    | cons b' bytes =>
      rw [List.map_cons, List.map_cons, List.intercalate_cons_cons] at h
      obtain h | h := List.mem_append.mp h
      · obtain h | h := List.mem_append.mp h
        · exact .inr (graphic_of_mem_paddedHex h)
        · exact .inl (List.mem_singleton.mp h)
      · exact ih h

theorem hidden_hexBytes (data : CharacterData) (bytes : Bytes) :
    ∀ c ∈ hexBytes bytes, data.hidden c = false := by
  intro c hc
  obtain rfl | hgraphic := mem_hexBytes hc
  · exact data.type_printable ' ' (by decide) (by decide)
  · exact hgraphic.hidden

/-- A text of white space is visible once every character of it is escaped. -/
theorem visibleText_ssidWhitespaceText (data : CharacterData) {bytes : Bytes} {text : List Char}
    (hdecode : utf8Decode bytes = some text) (hne : text ≠ []) :
    VisibleText data (ssidWhitespaceText bytes) := by
  rw [ssidWhitespaceText, hdecode, Option.getD_some]
  constructor
  · obtain ⟨c, rest, rfl⟩ := List.exists_cons_of_ne_nil hne
    rw [List.flatMap_cons]
    exact List.append_ne_nil_of_left_ne_nil (shortEscape_ne_nil (codepointEscape_ne_nil c)) _
  · intro d hd
    obtain ⟨c, -, hd⟩ := List.mem_flatMap.mp hd
    obtain hgraphic | ⟨-, hd⟩ := mem_shortEscape hd
    · exact hgraphic.hidden
    · exact (graphic_of_mem_codepointEscape hd).hidden

/-- The text before the digits is as visible as the whole. -/
theorem visibleText_hex (data : CharacterData) (text : List Char) (bytes : Bytes) :
    VisibleText data (text ++ " (hex: ".toList ++ hexBytes bytes ++ [')']) ↔
      ∀ c ∈ text, data.hidden c = false := by
  have hbefore : ∀ c ∈ " (hex: ".toList, data.hidden c = false :=
    hidden_of_printable data (forall_char (by decide +kernel))
  have hafter := hidden_parenthesis data
  constructor
  · intro h c hc
    exact h.visible c (by simp only [List.mem_append]; exact .inl (.inl (.inl hc)))
  · intro h
    refine ⟨List.append_ne_nil_of_right_ne_nil _ (List.cons_ne_nil _ _), ?_⟩
    intro c hc
    simp only [List.mem_append] at hc
    obtain ((hc | hc) | hc) | hc := hc
    · exact h c hc
    · exact hbefore c hc
    · exact hidden_hexBytes data bytes c hc
    · exact hafter c hc

/-- What is shown for the converted text is visible unless it is hidden space. -/
theorem visible_converted (data : CharacterData) {text : List Char} (hnul : '\x00' ∉ text) :
    (∀ c ∈ (if displayText data (some (utf8Encode text)) (some []) ≠ [] then
        displayText data (some (utf8Encode text)) (some []) else text), data.hidden c = false) ↔
      ¬ (text.all data.isSpace = true ∧ ∃ c ∈ text, data.hidden c = true) := by
  have hstring : cString (utf8Encode text) = utf8Encode text := by
    apply cString_of_notMem
    intro hmem
    obtain ⟨c, hc, hzero⟩ := (mem_utf8Encode (by decide)).mp hmem
    have hsame : c = '\x00' := Char.toNat_inj.mp hzero
    exact hnul (hsame ▸ hc)
  have hsafe : displayText data (some (utf8Encode text)) (some []) =
      if text.all data.isSpace then [] else displayChars data text := by
    rw [displayText, hstring, displayTextBytes, utf8Decode_utf8Encode]
    rfl
  rw [hsafe]
  cases hspace : text.all data.isSpace with
  | true =>
    simp only [if_true, ne_eq, not_true, if_false, true_and, not_exists, not_and,
      Bool.not_eq_true]
  | false =>
    have hplain := plainText_displayChars hspace
    simp only [Bool.false_eq_true, if_false, ne_eq, hplain.ne_nil, not_false_iff, if_true,
      false_and, iff_true]
    exact hplain.visibleText.visible

/-- The converted text is a string of C. -/
theorem nul_notMem_nmText {ssidToUtf8 : Bytes → Option (List Char)} {bytes : Bytes}
    {text : List Char} (h : nmText ssidToUtf8 bytes = some text) : '\x00' ∉ text := by
  unfold nmText at h
  split at h
  · cases h
  · obtain ⟨hmap, -⟩ := Option.filter_eq_some_iff.mp h
    obtain ⟨whole, -, rfl⟩ := Option.map_eq_some_iff.mp hmap
    intro hmem
    simpa using List.mem_takeWhile_imp hmem

/-- The digits alone are visible, behind a mark that the bytes are no text. -/
theorem visibleText_invalid (data : CharacterData) (bytes : Bytes) :
    VisibleText data ("Invalid UTF-8 SSID (hex: ".toList ++ hexBytes bytes ++ [')']) := by
  refine ⟨List.append_ne_nil_of_right_ne_nil _ (List.cons_ne_nil _ _), ?_⟩
  intro c hc
  simp only [List.mem_append] at hc
  obtain (hc | hc) | hc := hc
  · exact hidden_of_printable data (forall_char (by decide +kernel)) c hc
  · exact hidden_hexBytes data bytes c hc
  · exact hidden_parenthesis data c hc

/-- Valid bytes are displayed, or every one of their spaces is escaped. -/
theorem visibleText_valid (data : CharacterData) {bytes : Bytes} {text : List Char}
    (hdecode : utf8Decode bytes = some text) (hne : bytes ≠ []) :
    VisibleText data (if displayTextBytes data bytes (some []) ≠ [] then
      displayTextBytes data bytes (some []) else ssidWhitespaceText bytes) := by
  split
  · rename_i hsafe
    exact ((displayTextBytes_plain data bytes (some [])).resolve_left hsafe).visibleText
  · apply visibleText_ssidWhitespaceText data hdecode
    rintro rfl
    exact hne (utf8Encode_of_utf8Decode hdecode).symm

/-- The name of a network is visible, but for one that the library reads as hidden spaces. -/
theorem ssidTextFromBytes_visible (data : CharacterData)
    (ssidToUtf8 : Bytes → Option (List Char)) (ssid : Option Bytes) :
    VisibleText data (ssidTextFromBytes data ssidToUtf8 ssid) ↔
      ¬ ConvertedToHiddenSpace data ssidToUtf8 ssid := by
  have hnetwork : VisibleText data "Hidden network".toList :=
    ⟨by decide +kernel, hidden_of_printable data (forall_char (by decide +kernel))⟩
  cases ssid with
  | none =>
    refine iff_of_true hnetwork ?_
    rintro ⟨bytes, text, hsome, -⟩
    exact absurd hsome.symm (Option.some_ne_none bytes)
  | some bytes =>
    have hvalid {text : List Char} (hdecode : utf8Decode bytes = some text) :
        ¬ ConvertedToHiddenSpace data ssidToUtf8 (some bytes) := by
      rintro ⟨_, _, hsome, hnone, -⟩
      obtain rfl := Option.some.inj hsome
      rw [hdecode] at hnone
      cases hnone
    unfold ssidTextFromBytes
    dsimp only
    by_cases hne : bytes = []
    · subst hne
      exact iff_of_true hnetwork (@hvalid [] (utf8Decode_utf8Encode []))
    rw [if_neg hne]
    cases hdecode : utf8Decode bytes with
    | some text =>
      rw [Option.isNone_some, if_neg Bool.false_ne_true]
      exact iff_of_true (visibleText_valid data hdecode hne) (hvalid hdecode)
    | none =>
      rw [Option.isNone_none, if_pos rfl]
      cases hconverted : nmText ssidToUtf8 bytes with
      | none =>
        refine iff_of_true (visibleText_invalid data bytes) ?_
        rintro ⟨_, _, hsome, -, hsomeText, -⟩
        obtain rfl := Option.some.inj hsome
        rw [hconverted] at hsomeText
        exact absurd hsomeText.symm (Option.some_ne_none _)
      | some text =>
        dsimp only
        rw [visibleText_hex, visible_converted data (nul_notMem_nmText hconverted)]
        apply not_congr
        constructor
        · rintro ⟨hspace, hhidden⟩
          exact ⟨bytes, text, rfl, hdecode, hconverted, hspace, hhidden⟩
        · rintro ⟨_, _, hsome, -, hsomeText, hspace, hhidden⟩
          obtain rfl := Option.some.inj hsome
          obtain rfl := Option.some.inj (hconverted.symm.trans hsomeText)
          exact ⟨hspace, hhidden⟩

/-! ## A name of hidden spaces -/

/-- The categories of the first 256 characters as far as the spaces and the controls go. -/
def latinType (c : Char) : UnicodeType :=
  if c.toNat < 0x20 ∨ 0x7f ≤ c.toNat ∧ c.toNat < 0xa0 then .control
  else if c.toNat = 0x20 ∨ c.toNat = 0xa0 then .spaceSeparator
  else .otherLetter

theorem latinType_printable (c : Char) (hlow : 0x20 ≤ c.toNat) (hhigh : c.toNat ≤ 0x7e) :
    unicodeCategoryHidden (latinType c) = false := by
  unfold latinType
  rw [if_neg (by omega)]
  split <;> rfl

/-- The spaces among the first 256 characters. -/
def latinSpace (c : Char) : Bool :=
  c.toNat == 0x09 || c.toNat == 0x0a || c.toNat == 0x0c || c.toNat == 0x0d || c.toNat == 0x20 ||
    c.toNat == 0xa0

theorem latinSpace_graphic (c : Char) (hlow : 0x21 ≤ c.toNat) (hhigh : c.toNat ≤ 0x7e) :
    latinSpace c = false := by
  simp only [latinSpace, Bool.or_eq_false_iff, beq_eq_false_iff_ne, ne_eq]
  omega

/-- The character tables as they are for the first 256 characters. -/
def latinData : CharacterData where
  type := latinType
  isSpace := latinSpace
  type_printable := latinType_printable
  isSpace_graphic := latinSpace_graphic

/-- The conversion where the bytes that are no UTF-8 are read as ISO-8859-1. -/
def latinSsid (bytes : Bytes) : Option (List Char) :=
  some ((utf8Decode bytes).getD (bytes.map fun b => Char.ofNat b.toNat))

/-- The line feed of a network named by `0a a0` is shown as it is. -/
theorem ssidTextFromBytes_lineFeed :
    ¬ VisibleText latinData (ssidTextFromBytes latinData latinSsid (some [0x0a, 0xa0])) := by
  intro h
  refine absurd h ?_
  rw [ssidTextFromBytes_visible, not_not]
  refine ⟨[0x0a, 0xa0], ['\n', Char.ofNat 0xa0], rfl, ?_, ?_, ?_, '\n', ?_, ?_⟩
  · decide +kernel
  · decide +kernel
  · decide
  · decide
  · decide

end NmSidebar
