import NmSidebar.Text.Bytes

/-!
# UTF-8 text

Byte strings that hold UTF-8, as the characters they stand for. An ASCII character is one byte, and
no other character has a byte below 128.
-/

namespace Text

/-- The bytes of a text. -/
def utf8Encode (text : List Char) : Bytes := text.flatMap String.utf8EncodeChar

/-- The text of a byte string, where it is valid. -/
def utf8Decode (bytes : Bytes) : Option (List Char) :=
  bytes.toByteArray.utf8Decode?.map Array.toList

/-- A text is read back from its bytes. -/
@[simp] theorem utf8Decode_utf8Encode (text : List Char) :
    utf8Decode (utf8Encode text) = some text := by
  have hdecode : (utf8Encode text).toByteArray.utf8Decode? = some text.toArray :=
    List.utf8Decode?_utf8Encode
  rw [utf8Decode, hdecode]
  rfl

/-- The text that was read has the bytes it was read from. -/
theorem utf8Encode_of_utf8Decode {bytes : Bytes} {text : List Char}
    (h : utf8Decode bytes = some text) : utf8Encode text = bytes := by
  obtain ⟨chars, hchars, rfl⟩ := Option.map_eq_some_iff.mp h
  have hsome : bytes.toByteArray.utf8Decode?.isSome = true := by rw [hchars]; rfl
  have hget : bytes.toByteArray.utf8Decode?.get hsome = chars := Option.get_of_eq_some _ hchars
  have hencode := @ByteArray.utf8Encode_get_utf8Decode? bytes.toByteArray hsome
  rw [hget] at hencode
  have hdata := congrArg ByteArray.data hencode
  rw [List.utf8Encode, List.data_toByteArray, List.data_toByteArray] at hdata
  exact List.toArray_inj hdata

theorem utf8Encode_inj {text text' : List Char} (h : utf8Encode text = utf8Encode text') :
    text = text' := by
  have hdecoded := congrArg utf8Decode h
  rw [utf8Decode_utf8Encode, utf8Decode_utf8Encode] at hdecoded
  exact Option.some.inj hdecoded

theorem utf8Encode_append (text text' : List Char) :
    utf8Encode (text ++ text') = utf8Encode text ++ utf8Encode text' :=
  List.flatMap_append

/-- A byte below 128 is the character itself. -/
theorem mem_utf8EncodeChar {b : UInt8} (hb : b.toNat < 128) {c : Char} :
    b ∈ String.utf8EncodeChar c ↔ c.toNat = b.toNat := by
  have hbyte (n : ℕ) : b = UInt8.ofNat n ↔ b.toNat = n % 256 := by
    rw [← UInt8.toNat_inj, UInt8.toNat_ofNat']
  have hval : c.toNat = c.val.toNat := rfl
  unfold String.utf8EncodeChar
  dsimp only
  split
  · rw [List.mem_singleton, hbyte]
    omega
  split
  · simp only [List.mem_cons, List.not_mem_nil, or_false, hbyte]
    omega
  split
  · simp only [List.mem_cons, List.not_mem_nil, or_false, hbyte]
    omega
  · simp only [List.mem_cons, List.not_mem_nil, or_false, hbyte]
    omega

/-- A text has a byte below 128 where it has the character. -/
theorem mem_utf8Encode {b : UInt8} (hb : b.toNat < 128) {text : List Char} :
    b ∈ utf8Encode text ↔ ∃ c ∈ text, c.toNat = b.toNat := by
  unfold utf8Encode
  rw [List.mem_flatMap]
  constructor
  · rintro ⟨c, hc, hmem⟩
    exact ⟨c, hc, (mem_utf8EncodeChar hb).mp hmem⟩
  · rintro ⟨c, hc, hsame⟩
    exact ⟨c, hc, (mem_utf8EncodeChar hb).mpr hsame⟩

/-! ## Stripping -/

/-- The text without the characters of a kind at both of its ends. -/
def strip (p : Char → Bool) (text : List Char) : List Char := (text.dropWhile p).rdropWhile p

/-- The end of a text is cut off without a change of its start. -/
theorem dropWhile_rdropWhile (p : Char → Bool) {text : List Char} (h : text.dropWhile p = text) :
    (text.rdropWhile p).dropWhile p = text.rdropWhile p := by
  cases hcut : text.rdropWhile p with
  | nil => rfl
  | cons c cut =>
    obtain ⟨rest, hrest⟩ := List.rdropWhile_prefix p text
    have hhead : (text.dropWhile p).head? = some c := by
      rw [h, ← hrest, hcut]
      rfl
    have hc : p c = false := by
      have hnot := List.head?_dropWhile_not p text
      rw [hhead] at hnot
      simpa using hnot
    simp [hc]

/-- Nothing is left to strip after stripping. -/
theorem strip_strip (p : Char → Bool) (text : List Char) :
    strip p (strip p text) = strip p text := by
  unfold strip
  rw [dropWhile_rdropWhile p (List.dropWhile_idempotent p text), List.rdropWhile_idempotent]

/-- A text without such characters is what is left when it is surrounded by them. -/
theorem strip_padded {p : Char → Bool} {before middle after : List Char}
    (hbefore : ∀ c ∈ before, p c = true) (hmiddle : ∀ c ∈ middle, p c = false)
    (hafter : ∀ c ∈ after, p c = true) : strip p (before ++ middle ++ after) = middle := by
  have hend : (middle ++ after).rdropWhile p = middle := by
    have hcut : (middle ++ after).rdropWhile p = middle.rdropWhile p := by
      unfold List.rdropWhile
      rw [List.reverse_append, List.dropWhile_append_of_pos]
      exact fun c hc => hafter c (List.mem_reverse.mp hc)
    rw [hcut, List.rdropWhile_eq_self_iff]
    intro hne
    simp [hmiddle _ (List.getLast_mem hne)]
  unfold strip
  rw [List.append_assoc, List.dropWhile_append_of_pos hbefore]
  cases middle with
  | nil =>
    have hnone : after.dropWhile p = [] := List.dropWhile_eq_nil_iff.mpr hafter
    rw [List.nil_append, hnone]
    rfl
  | cons c middle =>
    have hc : p c = false := hmiddle c List.mem_cons_self
    rw [List.cons_append, List.dropWhile_cons, if_neg (Bool.eq_false_iff.mp hc)]
    exact hend

theorem strip_of_none {p : Char → Bool} {text : List Char} (h : ∀ c ∈ text, p c = false) :
    strip p text = text := by
  have hpadded := @strip_padded p [] text [] (fun _ hc => absurd hc List.not_mem_nil) h
    fun _ hc => absurd hc List.not_mem_nil
  simpa using hpadded

/-- Every character of a text passes a test that its characters are put to one by one. -/
theorem forall_char {P : Char → Prop} [DecidablePred P] {text : List Char}
    (h : text.all (fun c => decide (P c)) = true) : ∀ c ∈ text, P c := by
  intro c hc
  exact of_decide_eq_true (List.all_eq_true.mp h c hc)

end Text
