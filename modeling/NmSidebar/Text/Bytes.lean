import Mathlib.Tactic.Common
import Mathlib.Data.List.DropRight
import Mathlib.Data.Nat.Digits.Lemmas

/-!
# Byte strings

Byte strings as lists, with the character classes of the `g_ascii_*` functions, the search for
the first occurrence of a byte, and canonical decimal numerals.
-/

namespace Text

/-- A byte string. -/
abbrev Bytes := List UInt8

/-- Named, so that every module finds the same instance. -/
instance : LawfulBEq Bytes := inferInstance

/-- The bytes of an ASCII string. -/
def ascii (s : String) : Bytes := s.toList.map fun c => UInt8.ofNat c.toNat

/-! ## Character classes -/

/-- `g_ascii_isspace`: the vertical tab is not among them. -/
def isSpace (b : UInt8) : Bool :=
  b == 0x20 || b == 0x09 || b == 0x0a || b == 0x0c || b == 0x0d

/-- `g_ascii_isdigit`. -/
def isDigit (b : UInt8) : Bool := decide (0x30 ≤ b) && decide (b ≤ 0x39)

/-- `g_ascii_isalnum`. -/
def isAlnum (b : UInt8) : Bool :=
  isDigit b || (decide (0x41 ≤ b) && decide (b ≤ 0x5a)) || (decide (0x61 ≤ b) && decide (b ≤ 0x7a))

/-- `g_ascii_tolower`. -/
def toLower (b : UInt8) : UInt8 := if 0x41 ≤ b ∧ b ≤ 0x5a then b + 0x20 else b

/-- The string that begins with these bytes: it ends at the first zero byte. -/
def cString (value : Bytes) : Bytes := value.takeWhile fun b => b != 0

theorem cString_of_notMem {value : Bytes} (h : 0 ∉ value) : cString value = value := by
  rw [cString, List.takeWhile_eq_self_iff]
  intro b hb
  exact bne_iff_ne.mpr fun hzero => h (hzero ▸ hb)

/-- The text between its leading and its trailing white space. -/
def trim (xs : Bytes) : Bytes := (xs.dropWhile isSpace).rdropWhile isSpace

/-- A text without white space is not changed by trimming. -/
theorem trim_of_no_space {xs : Bytes} (h : ∀ b ∈ xs, isSpace b = false) : trim xs = xs := by
  have hdrop : xs.dropWhile isSpace = xs := by
    cases xs with
    | nil => rfl
    | cons b xs => simp [h b (List.mem_cons_self ..)]
  rw [trim, hdrop, List.rdropWhile_eq_self_iff]
  intro hne
  simp [h _ (List.getLast_mem hne)]

/-- Trimming takes bytes away and changes none. -/
theorem mem_of_mem_trim {xs : Bytes} {b : UInt8} (h : b ∈ trim xs) : b ∈ xs :=
  (List.dropWhile_sublist isSpace).mem ((List.rdropWhile_prefix isSpace _).sublist.mem h)

/-- Nothing is left to trim after trimming. -/
theorem trim_trim (xs : Bytes) : trim (trim xs) = trim xs := by
  have hdrop : (trim xs).dropWhile isSpace = trim xs := by
    cases htrim : trim xs with
    | nil => rfl
    | cons b rest =>
      have hhead : (xs.dropWhile isSpace).head? = some b := by
        obtain ⟨t, ht⟩ := List.rdropWhile_prefix isSpace (xs.dropWhile isSpace)
        rw [trim] at htrim
        rw [← ht, htrim]
        rfl
      have hb : isSpace b = false := by
        have := List.head?_dropWhile_not isSpace xs
        rw [hhead] at this
        simpa using this
      simp [hb]
  rw [trim, hdrop, trim, List.rdropWhile_idempotent]

/-- White space before a text is trimmed away. -/
theorem trim_cons_space {b : UInt8} (h : isSpace b = true) (xs : Bytes) :
    trim (b :: xs) = trim xs := by
  rw [trim, List.dropWhile_cons, if_pos h, ← trim]

theorem rdropWhile_append {pre : Bytes} (h : pre.rdropWhile isSpace = pre) (xs : Bytes) :
    (pre ++ xs).rdropWhile isSpace = pre ++ xs.rdropWhile isSpace := by
  induction xs using List.reverseRecOn with
  | nil => simpa using h
  | append_singleton xs x ih =>
    rw [← List.append_assoc]
    by_cases hx : isSpace x = true
    · rw [List.rdropWhile_concat_pos _ _ _ hx, List.rdropWhile_concat_pos _ _ _ hx, ih]
    · rw [List.rdropWhile_concat_neg _ _ _ hx, List.rdropWhile_concat_neg _ _ _ hx,
        List.append_assoc]

/-- Behind a text that has nothing to trim only trailing white space is lost. -/
theorem trim_append {pre : Bytes} (hne : pre ≠ []) (h : trim pre = pre) (xs : Bytes) :
    trim (pre ++ xs) = pre ++ xs.rdropWhile isSpace := by
  have hend : pre.rdropWhile isSpace = pre := by
    rw [← h, trim, List.rdropWhile_idempotent]
  have hstart : (pre ++ xs).dropWhile isSpace = pre ++ xs := by
    cases pre with
    | nil => exact absurd rfl hne
    | cons b pre =>
      have hb : ¬isSpace b = true := by
        intro hb
        -- a trimmed text is shorter than one that starts with white space
        have hlen := congrArg List.length h
        rw [trim_cons_space hb, List.length_cons, trim] at hlen
        have h1 := (List.rdropWhile_prefix isSpace (pre.dropWhile isSpace)).length_le
        have h2 := (List.dropWhile_sublist isSpace (l := pre)).length_le
        omega
      rw [List.cons_append, List.dropWhile_cons, if_neg hb]
  rw [trim, hstart, rdropWhile_append hend]

/-- Cutting the end off a trimmed text and the space before it leaves the text. -/
theorem trim_rdropWhile_space {b : UInt8} (h : isSpace b = true) {xs : Bytes}
    (hxs : trim xs = xs) : trim ((b :: xs).rdropWhile isSpace) = xs := by
  cases xs with
  | nil => simp [List.rdropWhile_singleton, h, trim]
  | cons x xs =>
    have hend : (x :: xs).rdropWhile isSpace = x :: xs := by
      rw [← hxs, trim, List.rdropWhile_idempotent]
    have hlast := List.rdropWhile_eq_self_iff.mp hend (List.cons_ne_nil x xs)
    rw [List.rdropWhile_eq_self_iff.mpr fun _ => by simpa using hlast, trim_cons_space h, hxs]

theorem isSpace_of_isDigit {b : UInt8} (h : isDigit b = true) : isSpace b = false := by
  by_contra hs
  simp only [Bool.not_eq_false, isSpace, Bool.or_eq_true, beq_iff_eq] at hs
  rcases hs with (((rfl | rfl) | rfl) | rfl) | rfl <;> exact absurd h (by decide)

/-! ## The first occurrence of a byte -/

/-- What stands before the first `b` and what stands after it; `none` where there is no `b`. -/
def splitFirst (b : UInt8) : Bytes → Option (Bytes × Bytes)
  | [] => none
  | x :: xs => if x = b then some ([], xs) else
      (splitFirst b xs).map fun parts => (x :: parts.1, parts.2)

/-- A split puts the two parts back around a `b` that does not occur in the first. -/
theorem splitFirst_eq_some {b : UInt8} {xs pre post : Bytes} :
    splitFirst b xs = some (pre, post) ↔ xs = pre ++ b :: post ∧ b ∉ pre := by
  induction xs generalizing pre with
  | nil => simp [splitFirst]
  | cons x xs ih =>
    by_cases hx : x = b
    · subst hx
      cases pre with
      | nil => simp [splitFirst, eq_comm]
      | cons y pre =>
        simp only [splitFirst, if_true, Option.some.injEq, Prod.mk.injEq, List.cons_append,
          List.cons.injEq, List.mem_cons, not_or]
        constructor
        · rintro ⟨h, -⟩
          cases h
        · rintro ⟨⟨rfl, -⟩, hne, -⟩
          exact absurd rfl hne
    · cases pre with
      | nil => simp [splitFirst, hx]
      | cons y pre =>
        simp only [splitFirst, if_neg hx, Option.map_eq_some_iff, Prod.exists, Prod.mk.injEq,
          List.cons.injEq, List.cons_append, List.mem_cons, not_or]
        constructor
        · rintro ⟨pre', post', h, ⟨rfl, rfl⟩, rfl⟩
          obtain ⟨rfl, hb⟩ := ih.mp h
          exact ⟨⟨rfl, rfl⟩, fun he => hx he.symm, hb⟩
        · rintro ⟨⟨rfl, hxs⟩, -, hb⟩
          exact ⟨pre, post, ih.mpr ⟨hxs, hb⟩, ⟨rfl, rfl⟩, rfl⟩

/-- A byte string without a `b` has no split. -/
theorem splitFirst_eq_none {b : UInt8} {xs : Bytes} : splitFirst b xs = none ↔ b ∉ xs := by
  induction xs with
  | nil => simp [splitFirst]
  | cons x xs ih =>
    by_cases hx : x = b
    · simp [splitFirst, hx]
    · simp [splitFirst, hx, ih, Ne.symm hx]

theorem splitFirst_append {b : UInt8} {pre post : Bytes} (h : b ∉ pre) :
    splitFirst b (pre ++ b :: post) = some (pre, post) :=
  splitFirst_eq_some.mpr ⟨rfl, h⟩

/-! ## A fixed prefix -/

/-- What follows the prefix `pre`; `none` where the text does not start with it. -/
def stripPrefix (pre xs : Bytes) : Option Bytes :=
  if xs.take pre.length = pre then some (xs.drop pre.length) else none

theorem stripPrefix_eq_some {pre xs rest : Bytes} :
    stripPrefix pre xs = some rest ↔ xs = pre ++ rest := by
  unfold stripPrefix
  constructor
  · intro h
    split at h
    · rename_i hpre
      obtain rfl := Option.some.inj h
      conv_lhs => rw [← List.take_append_drop pre.length xs, hpre]
    · cases h
  · rintro rfl
    simp

/-! ## Decimal numerals -/

/-- The digits of a numeral, most significant first, and `0` for zero (`%u`). -/
def decimal (n : ℕ) : Bytes :=
  if n = 0 then [0x30] else (Nat.digits 10 n).reverse.map fun d => UInt8.ofNat (0x30 + d)

/-- The value of a digit. -/
def digitValue (b : UInt8) : ℕ := b.toNat - 0x30

/-- The number read from digits, starting from what earlier digits gave. -/
def readFrom (v : ℕ) (xs : Bytes) : ℕ := xs.foldl (fun v b => v * 10 + digitValue b) v

theorem isDigit_iff {b : UInt8} : isDigit b = true ↔ 0x30 ≤ b.toNat ∧ b.toNat ≤ 0x39 := by
  simp [isDigit, UInt8.le_iff_toNat_le]

theorem digitValue_lt {b : UInt8} (h : isDigit b = true) : digitValue b < 10 := by
  obtain ⟨_, h⟩ := isDigit_iff.mp h
  simp only [digitValue]
  omega

private theorem toNat_digit {d : ℕ} (h : d < 10) : (UInt8.ofNat (0x30 + d)).toNat = 0x30 + d := by
  simp only [UInt8.toNat_ofNat']
  omega

private theorem digitValue_digit {d : ℕ} (h : d < 10) :
    digitValue (UInt8.ofNat (0x30 + d)) = d := by
  rw [digitValue, toNat_digit h]
  omega

private theorem digit_digitValue {b : UInt8} (h : isDigit b = true) :
    UInt8.ofNat (0x30 + digitValue b) = b := by
  apply UInt8.toNat_inj.mp
  rw [toNat_digit (digitValue_lt h), digitValue]
  have := (isDigit_iff.mp h).1
  omega

/-- Reading from a start value never gives less than the start value. -/
theorem le_readFrom (v : ℕ) (xs : Bytes) : v ≤ readFrom v xs := by
  induction xs generalizing v with
  | nil => exact le_refl v
  | cons b xs ih => exact le_trans (by omega) (ih (v * 10 + digitValue b))

private theorem readFrom_zero (xs : Bytes) :
    readFrom 0 xs = Nat.ofDigits 10 (xs.map digitValue).reverse := by
  rw [Nat.ofDigits_eq_foldr, List.foldr_reverse, List.foldl_map]
  simp only [readFrom, Nat.cast_id]
  congr 1
  funext v b
  ring

/-- Every byte of a numeral is a digit. -/
theorem isDigit_of_mem_decimal {n : ℕ} {b : UInt8} (h : b ∈ decimal n) : isDigit b = true := by
  unfold decimal at h
  split at h
  · obtain rfl := List.mem_singleton.mp h
    decide
  · obtain ⟨d, hd, rfl⟩ := List.mem_map.mp h
    have hlt : d < 10 := Nat.digits_lt_base (by norm_num) (List.mem_reverse.mp hd)
    rw [isDigit_iff, toNat_digit hlt]
    omega

theorem decimal_ne_nil (n : ℕ) : decimal n ≠ [] := by
  unfold decimal
  split
  · simp
  · rename_i h
    simpa using Nat.digits_ne_nil_iff_ne_zero.mpr h

/-- Only zero is written with a leading zero. -/
theorem head_decimal {n : ℕ} (h : n ≠ 0) : (decimal n).head? ≠ some 0x30 := by
  have hne : Nat.digits 10 n ≠ [] := Nat.digits_ne_nil_iff_ne_zero.mpr h
  have hlast := Nat.getLast_digit_ne_zero 10 h
  have hlt : (Nat.digits 10 n).getLast hne < 10 :=
    Nat.digits_lt_base (by norm_num) (List.getLast_mem hne)
  rw [decimal, if_neg h, List.head?_map, List.head?_reverse, List.getLast?_eq_getLast_of_ne_nil hne,
    Option.map_some]
  intro heq
  have hnat := congrArg UInt8.toNat (Option.some.inj heq)
  rw [toNat_digit hlt] at hnat
  have : (Nat.digits 10 n).getLast hne = 0 := by simpa using hnat
  exact hlast this

/-- Reading a numeral gives the number it was written for. -/
theorem readFrom_decimal (n : ℕ) : readFrom 0 (decimal n) = n := by
  by_cases h : n = 0
  · subst h
    decide
  · have hmap : ((decimal n).map digitValue).reverse = Nat.digits 10 n := by
      rw [decimal, if_neg h, List.map_map, List.map_reverse, List.reverse_reverse]
      conv_rhs => rw [← List.map_id (Nat.digits 10 n)]
      refine List.map_congr_left fun d hd => ?_
      exact digitValue_digit (Nat.digits_lt_base (by norm_num) hd)
    rw [readFrom_zero, hmap, Nat.ofDigits_digits]

/-- A nonempty string of digits without a leading zero, or the single digit zero, is the numeral
of the number read from it. -/
theorem decimal_readFrom {xs : Bytes} (hne : xs ≠ []) (hdigit : ∀ b ∈ xs, isDigit b = true)
    (hhead : xs = [0x30] ∨ xs.head? ≠ some 0x30) : decimal (readFrom 0 xs) = xs := by
  rcases hhead with rfl | hhead
  · decide
  · obtain ⟨b, ys, rfl⟩ := List.exists_cons_of_ne_nil hne
    have hb := hdigit b (List.mem_cons_self ..)
    have hb0 : digitValue b ≠ 0 := by
      intro h0
      refine hhead (congrArg some ?_)
      rw [← digit_digitValue hb, h0]
      rfl
    have hdigits : Nat.digits 10 (readFrom 0 (b :: ys)) = ((b :: ys).map digitValue).reverse := by
      rw [readFrom_zero]
      refine Nat.digits_ofDigits 10 (by norm_num) _ (fun d hd => ?_) (fun h => ?_)
      · obtain ⟨c, hc, rfl⟩ := List.mem_map.mp (List.mem_reverse.mp hd)
        exact digitValue_lt (hdigit c hc)
      · simpa using hb0
    have hpos : readFrom 0 (b :: ys) ≠ 0 := by
      have h1 : digitValue b ≤ readFrom 0 (b :: ys) := by
        simpa [readFrom] using le_readFrom (digitValue b) ys
      omega
    rw [decimal, if_neg hpos, hdigits, List.reverse_reverse, List.map_map]
    conv_rhs => rw [← List.map_id (b :: ys)]
    exact List.map_congr_left fun c hc => digit_digitValue (hdigit c hc)

/-- A number below `10 ^ k` is written with at most `k` digits. -/
theorem length_decimal_le {n k : ℕ} (hk : 0 < k) (h : n < 10 ^ k) : (decimal n).length ≤ k := by
  unfold decimal
  split
  · simp only [List.length_singleton]
    omega
  · simpa using (Nat.digits_length_le_iff (by norm_num) n).mpr h

/-! ## Records -/

/-- Records of `k` bytes or more take `k` times their number. -/
theorem mul_length_le_flatMap {α : Type} {encode : α → Bytes} {k : ℕ} {records : List α}
    (h : ∀ record ∈ records, k ≤ (encode record).length) :
    k * records.length ≤ (records.flatMap encode).length := by
  induction records with
  | nil => simp
  | cons record rest ih =>
    have hrecord := h record List.mem_cons_self
    have hrest := ih fun other hmem => h other (List.mem_cons_of_mem _ hmem)
    rw [List.length_cons, List.flatMap_cons, List.length_append, Nat.mul_succ]
    omega

/-- Records of at most `k` bytes take at most `k` times their number. -/
theorem length_flatMap_le_mul {α : Type} {encode : α → Bytes} {k : ℕ} {records : List α}
    (h : ∀ record ∈ records, (encode record).length ≤ k) :
    (records.flatMap encode).length ≤ k * records.length := by
  induction records with
  | nil => simp
  | cons record rest ih =>
    have hrecord := h record List.mem_cons_self
    have hrest := ih fun other hmem => h other (List.mem_cons_of_mem _ hmem)
    rw [List.length_cons, List.flatMap_cons, List.length_append, Nat.mul_succ]
    omega

end Text
