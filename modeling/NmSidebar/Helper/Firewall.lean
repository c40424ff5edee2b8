import NmSidebar.AmneziaWG.ProfileReport
import NmSidebar.Helper.Operations

/-!
# The firewall rules of a tunnel

`amneziawg_firewall.c`, as far as it reads what `iptables-save` writes. The verdict that a tunnel has
no rules left lets its last record be deleted. It is given only for a text of whole tables, in which
every line is read.
-/

namespace NmSidebar

open Text

/-! ## The reader -/

/-- `AWG_TOOL_OUTPUT_LIMIT`. -/
def toolOutputLimit : ℕ := 1024 * 1024

/-- `output_text`. -/
def outputText (output : Option Bytes) : Option Bytes := do
  let data ← output
  if data.length > toolOutputLimit ∨ 0 ∈ data ∨ utf8Validate data = false then none
  else some data

/-- The text starts with a digit. -/
def startsWithDigit (text : Bytes) : Bool := text.head?.any isDigit

/-- `counter_pair`. -/
def counterPair (text : Bytes) : Bool :=
  match text with
  | 0x5b :: packets =>
    startsWithDigit packets &&
      match packets.dropWhile isDigit with
      | 0x3a :: bytes => startsWithDigit bytes && bytes.dropWhile isDigit == [0x5d]
      | _ => false
  | _ => false

/-- The option that gives a rule its comment. -/
def commentOption : Bytes := ascii "--comment"

/-- The comment of the rules that `awg-quick` makes for an interface. -/
def ruleComment (name : Bytes) : Bytes := ascii "awg-quick(8) rule for " ++ name

/-- The loop of `parse_iptables_save` over the words of a rule behind its chain. -/
def scanArguments (expected : Bytes) (present : Bool) : List Bytes → Option Bool
  | [] => some present
  | word :: words =>
    if word = commentOption then
      match words with
      | [] => none
      | value :: words => scanArguments expected (present || value == expected) words
    else scanArguments expected present words

/-- What `parse_iptables_save` keeps between two lines. -/
structure SaveScan where
  inTable : Bool
  present : Bool
  deriving DecidableEq

/-- The end of a table. -/
def commitLine : Bytes := ascii "COMMIT"

/-- The flag that appends a rule to a chain. -/
def appendFlag : Bytes := ascii "-A"

/-- A line within a table that does not end it, as `parse_iptables_save` reads it. `shellParse` is
`g_shell_parse_argv`. -/
def scanTableLine (shellParse : Bytes → Option (List Bytes)) (expected : Bytes) (present : Bool)
    (line : Bytes) : Option Bool :=
  match shellParse line with
  | none => none
  | some words =>
    if line.head? = some 0x3a then
      match words with
      | [chain, _, counters] =>
        if chain.tail = [] ∨ counterPair counters = false then none else some present
      | _ => none
    else
      match words with
      | flag :: chain :: words =>
        if flag ≠ appendFlag ∨ chain = [] then none else scanArguments expected present words
      | _ => none

/-- One line of `parse_iptables_save`. -/
def SaveScan.line (shellParse : Bytes → Option (List Bytes)) (expected : Bytes) (scan : SaveScan)
    (line : Bytes) : Option SaveScan :=
  if line = [] ∨ line.head? = some 0x23 then some scan
  else if line.head? = some 0x2a then
    if scan.inTable ∨ line.tail = [] ∨ 0x20 ∈ line ∨ 0x09 ∈ line ∨ 0x0d ∈ line then none
    else some { scan with inTable := true }
  else if line = commitLine then
    if !scan.inTable then none else some { scan with inTable := false }
  else if !scan.inTable then none
  else (scanTableLine shellParse expected scan.present line).map (SaveScan.mk scan.inTable)

/-- `parse_iptables_save`. -/
def parseIptablesSave (shellParse : Bytes → Option (List Bytes)) (name : Bytes)
    (output : Option Bytes) : FirewallState :=
  match outputText output with
  | none => .unknown
  | some text =>
    if text ≠ [] ∧ text.getLast? ≠ some newline then .unknown
    else
      match (strsplit newline text).foldlM (SaveScan.line shellParse (ruleComment name))
          ⟨false, false⟩ with
      | none => .unknown
      | some scan =>
        if scan.inTable then .unknown else if scan.present then .present else .absent

/-! ## What a save is -/

/-- Two decimal counters in brackets. -/
def CounterPair (text : Bytes) : Prop :=
  ∃ packets bytes : Bytes, packets ≠ [] ∧ bytes ≠ [] ∧ (∀ b ∈ packets, isDigit b = true) ∧
    (∀ b ∈ bytes, isDigit b = true) ∧ text = 0x5b :: packets ++ 0x3a :: bytes ++ [0x5d]

/-- An argument of a rule: a comment with its text, or another word. -/
inductive RuleArgument where
  | comment (text : Bytes)
  | word (text : Bytes)
  deriving DecidableEq

/-- The words of an argument. -/
def RuleArgument.words : RuleArgument → List Bytes
  | .comment text => [commentOption, text]
  | .word text => [text]

/-- The words, read from left to right, are the arguments. -/
def ReadsAs (words : List Bytes) (arguments : List RuleArgument) : Prop :=
  words = arguments.flatMap RuleArgument.words ∧ .word commentOption ∉ arguments

/-- The line is blank or a comment. -/
def BlankLine (line : Bytes) : Prop := line = [] ∨ line.head? = some 0x23

/-- The line opens a table. -/
structure TableHeader (line : Bytes) : Prop where
  star : line.head? = some 0x2a
  named : line.tail ≠ []
  blank : 0x20 ∉ line ∧ 0x09 ∉ line ∧ 0x0d ∉ line

/-- A line within a table, with the arguments of the rule it appends. -/
inductive TableLine (shellParse : Bytes → Option (List Bytes)) :
    Bytes → List RuleArgument → Prop
  | blank {line : Bytes} : BlankLine line → TableLine shellParse line []
  | chain {line chain policy counters : Bytes} : line.head? = some 0x3a →
      shellParse line = some [chain, policy, counters] → chain.tail ≠ [] → CounterPair counters →
      TableLine shellParse line []
  | rule {line chain : Bytes} {words : List Bytes} {arguments : List RuleArgument} :
      ¬ BlankLine line → line.head? ≠ some 0x2a → line.head? ≠ some 0x3a → line ≠ commitLine →
      shellParse line = some (appendFlag :: chain :: words) → chain ≠ [] →
      ReadsAs words arguments → TableLine shellParse line arguments

/-- The lines of a save, with the rules in it: tables that do not nest, and blank lines. -/
inductive SaveLines (shellParse : Bytes → Option (List Bytes)) :
    List Bytes → List (List RuleArgument) → Prop
  | nil : SaveLines shellParse [] []
  | blank {line : Bytes} {lines : List Bytes} {rules : List (List RuleArgument)} :
      BlankLine line → SaveLines shellParse lines rules → SaveLines shellParse (line :: lines) rules
  | table {header : Bytes} {body lines : List Bytes} {bodyRules rules : List (List RuleArgument)} :
      TableHeader header → List.Forall₂ (TableLine shellParse) body bodyRules →
      SaveLines shellParse lines rules →
      SaveLines shellParse (header :: body ++ commitLine :: lines) (bodyRules ++ rules)

/-- What the tool wrote is a valid text of whole lines, which are a save with these rules in it. -/
def IsSave (shellParse : Bytes → Option (List Bytes)) (output : Option Bytes)
    (rules : List (List RuleArgument)) : Prop :=
  ∃ lines : List Bytes, ∃ text : Bytes, output = some text ∧ text.length ≤ toolOutputLimit ∧
    0 ∉ text ∧ utf8Validate text = true ∧ text = lines.flatMap (· ++ [newline]) ∧
      (∀ line ∈ lines, newline ∉ line) ∧ SaveLines shellParse lines rules

/-! ## Words -/

theorem startsWithDigit_iff {text : Bytes} :
    startsWithDigit text = true ↔ ∃ b rest, text = b :: rest ∧ isDigit b = true := by
  cases text with
  | nil => simp [startsWithDigit]
  | cons b rest =>
    rw [startsWithDigit, List.head?_cons, Option.any_some]
    constructor
    · intro h
      exact ⟨b, rest, rfl, h⟩
    · rintro ⟨_, _, heq, h⟩
      rwa [(List.cons.inj heq).1]

/-- The text starts with decimal digits, and the rest of it follows them. -/
theorem digits_iff {text rest : Bytes} (hrest : ∀ b ∈ rest.head?, isDigit b = false) :
    startsWithDigit text = true ∧ text.dropWhile isDigit = rest ↔
      ∃ digits : Bytes, digits ≠ [] ∧ (∀ b ∈ digits, isDigit b = true) ∧
        text = digits ++ rest := by
  constructor
  · rintro ⟨hstart, rfl⟩
    obtain ⟨b, tail, rfl, hb⟩ := startsWithDigit_iff.mp hstart
    refine ⟨(b :: tail).takeWhile isDigit, ?_, fun c hc => List.mem_takeWhile_imp hc,
      List.takeWhile_append_dropWhile.symm⟩
    rw [List.takeWhile_cons, hb]
    exact List.cons_ne_nil b _
  · rintro ⟨digits, hne, hdigits, rfl⟩
    obtain ⟨b, tail, rfl⟩ := List.exists_cons_of_ne_nil hne
    refine ⟨startsWithDigit_iff.mpr ⟨b, _, rfl, hdigits b List.mem_cons_self⟩, ?_⟩
    rw [List.dropWhile_append_of_pos hdigits]
    cases rest with
    | nil => rfl
    | cons c rest => rw [List.dropWhile_cons, hrest c rfl]; rfl

/-- The counters are accepted where they are two decimal numbers in brackets. -/
theorem counterPair_iff {text : Bytes} : counterPair text = true ↔ CounterPair text := by
  have hcolon (bytes : Bytes) : ∀ b ∈ (0x3a :: bytes).head?, isDigit b = false := by
    rintro b ⟨⟩
    rfl
  have hclose : ∀ b ∈ [(0x5d : UInt8)].head?, isDigit b = false := by
    rintro b ⟨⟩
    rfl
  constructor
  · intro h
    unfold counterPair at h
    split at h
    · rename_i rest
      rw [Bool.and_eq_true] at h
      obtain ⟨hpackets, h⟩ := h
      split at h
      · rename_i rest' hdrop
        rw [Bool.and_eq_true, beq_iff_eq] at h
        obtain ⟨packets, hne, hdigits, rfl⟩ := (digits_iff (hcolon rest')).mp ⟨hpackets, hdrop⟩
        obtain ⟨bytes, hne', hdigits', rfl⟩ := (digits_iff hclose).mp h
        refine ⟨packets, bytes, hne, hne', hdigits, hdigits', ?_⟩
        simp only [List.cons_append, List.append_assoc]
      · cases h
    · cases h
  · rintro ⟨packets, bytes, hne, hne', hdigits, hdigits', rfl⟩
    have hpackets := (digits_iff (hcolon (bytes ++ [0x5d]))).mpr ⟨packets, hne, hdigits, rfl⟩
    have hbytes := (digits_iff hclose).mpr ⟨bytes, hne', hdigits', rfl⟩
    have htext : 0x5b :: packets ++ 0x3a :: bytes ++ [0x5d] =
        0x5b :: (packets ++ 0x3a :: (bytes ++ [0x5d])) := by
      simp only [List.cons_append, List.append_assoc]
    rw [htext]
    simp only [counterPair, hpackets.1, hpackets.2, hbytes.1, hbytes.2, Bool.true_and,
      beq_self_eq_true]

theorem readsAs_nil_iff {arguments : List RuleArgument} :
    ReadsAs [] arguments ↔ arguments = [] := by
  constructor
  · rintro ⟨hwords, -⟩
    cases arguments with
    | nil => rfl
    | cons argument arguments => cases argument <;> cases hwords
  · rintro rfl
    exact ⟨rfl, List.not_mem_nil⟩

/-- The option of a comment is read with the word behind it. -/
theorem readsAs_comment_iff {text : Bytes} {words : List Bytes} {arguments : List RuleArgument} :
    ReadsAs (commentOption :: text :: words) arguments ↔
      ∃ rest, arguments = .comment text :: rest ∧ ReadsAs words rest := by
  constructor
  · rintro ⟨hwords, hplain⟩
    cases arguments with
    | nil => cases hwords
    | cons argument arguments =>
      cases argument with
      | comment other =>
        obtain ⟨-, hrest⟩ := List.cons.inj hwords
        obtain ⟨rfl, htail⟩ := List.cons.inj hrest
        exact ⟨arguments, rfl, htail, fun h => hplain (List.mem_cons_of_mem _ h)⟩
      | word other =>
        obtain rfl : commentOption = other := (List.cons.inj hwords).1
        exact absurd List.mem_cons_self hplain
  · rintro ⟨rest, rfl, hwords, hplain⟩
    refine ⟨congrArg (commentOption :: text :: ·) hwords, ?_⟩
    intro hmem
    obtain heq | hmem := List.mem_cons.mp hmem
    · cases heq
    · exact hplain hmem

/-- Another word is read alone. -/
theorem readsAs_word_iff {word : Bytes} (hword : word ≠ commentOption) {words : List Bytes}
    {arguments : List RuleArgument} :
    ReadsAs (word :: words) arguments ↔
      ∃ rest, arguments = .word word :: rest ∧ ReadsAs words rest := by
  constructor
  · rintro ⟨hwords, hplain⟩
    cases arguments with
    | nil => cases hwords
    | cons argument arguments =>
      cases argument with
      | comment other => exact absurd (List.cons.inj hwords).1 hword
      | word other =>
        obtain ⟨rfl, htail⟩ := List.cons.inj hwords
        exact ⟨arguments, rfl, htail, fun h => hplain (List.mem_cons_of_mem _ h)⟩
  · rintro ⟨rest, rfl, hwords, hplain⟩
    refine ⟨congrArg (word :: ·) hwords, ?_⟩
    intro hmem
    obtain heq | hmem := List.mem_cons.mp hmem
    · exact hword (RuleArgument.word.inj heq).symm
    · exact hplain hmem

/-- The option of a comment is not the last word. -/
theorem not_readsAs_option {arguments : List RuleArgument} :
    ¬ ReadsAs [commentOption] arguments := by
  rintro ⟨hwords, hplain⟩
  cases arguments with
  | nil => cases hwords
  | cons argument arguments =>
    cases argument with
    | comment text => cases (List.cons.inj hwords).2
    | word text =>
      obtain rfl : commentOption = text := (List.cons.inj hwords).1
      exact hplain List.mem_cons_self

/-- Some argument is the comment that is looked for. -/
def hasComment (expected : Bytes) (arguments : List RuleArgument) : Bool :=
  arguments.any fun argument => argument = .comment expected

theorem hasComment_comment (expected text : Bytes) (arguments : List RuleArgument) :
    hasComment expected (.comment text :: arguments) =
      (text == expected || hasComment expected arguments) := by
  rw [hasComment, List.any_cons]
  congr 1
  rw [Bool.eq_iff_iff, decide_eq_true_iff, beq_iff_eq, RuleArgument.comment.injEq]

theorem hasComment_word (expected text : Bytes) (arguments : List RuleArgument) :
    hasComment expected (.word text :: arguments) = hasComment expected arguments := by
  rw [hasComment, List.any_cons]
  exact Bool.false_or _

/-- The words are scanned where they read as arguments. -/
theorem scanArguments_iff {expected : Bytes} {words : List Bytes} {present found : Bool} :
    scanArguments expected present words = some found ↔
      ∃ arguments, ReadsAs words arguments ∧ found = (present || hasComment expected arguments) := by
  fun_induction scanArguments expected present words with
  | case1 present =>
    simp only [readsAs_nil_iff, exists_eq_left, Option.some.injEq, eq_comm]
    rw [hasComment, List.any_nil, Bool.or_false]
  | case2 =>
    refine iff_of_false (fun h => by cases h) ?_
    rintro ⟨arguments, hreads, -⟩
    exact not_readsAs_option hreads
  | case3 present value words ih =>
    rw [ih]
    simp only [readsAs_comment_iff]
    constructor
    · rintro ⟨rest, hreads, rfl⟩
      exact ⟨_, ⟨rest, rfl, hreads⟩, by rw [hasComment_comment, Bool.or_assoc]⟩
    · rintro ⟨_, ⟨rest, rfl, hreads⟩, rfl⟩
      exact ⟨rest, hreads, by rw [hasComment_comment, Bool.or_assoc]⟩
  | case4 present word words hword ih =>
    rw [ih]
    simp only [readsAs_word_iff hword]
    constructor
    · rintro ⟨rest, hreads, rfl⟩
      exact ⟨_, ⟨rest, rfl, hreads⟩, by rw [hasComment_word]⟩
    · rintro ⟨_, ⟨rest, rfl, hreads⟩, rfl⟩
      exact ⟨rest, hreads, by rw [hasComment_word]⟩

/-! ## Lines -/

/-- A blank line starts with no other mark. -/
theorem BlankLine.head {line : Bytes} (h : BlankLine line) {b : UInt8} (hb : b ≠ 0x23) :
    line.head? ≠ some b := by
  intro hhead
  obtain rfl | hmark := h
  · cases hhead
  · exact hb (Option.some.inj (hhead.symm.trans hmark))

theorem head_commitLine : commitLine.head? = some 0x43 := by decide +kernel

theorem not_blankLine_commitLine : ¬ BlankLine commitLine := fun h =>
  h.head (by decide) head_commitLine

/-- Outside the tables there are blank lines and the headers of tables. -/
theorem line_outside {shellParse : Bytes → Option (List Bytes)} {expected : Bytes} {present : Bool}
    {line : Bytes} {scan : SaveScan} :
    SaveScan.line shellParse expected ⟨false, present⟩ line = some scan ↔
      BlankLine line ∧ scan = ⟨false, present⟩ ∨ TableHeader line ∧ scan = ⟨true, present⟩ := by
  unfold SaveScan.line
  dsimp only
  split
  · rename_i hblank
    have hheader : ¬ TableHeader line := fun h => BlankLine.head hblank (by decide) h.star
    constructor
    · rintro ⟨⟩
      exact .inl ⟨hblank, rfl⟩
    · rintro (⟨-, rfl⟩ | ⟨h, -⟩)
      · rfl
      · exact absurd h hheader
  rename_i hblank
  split
  · rename_i hstar
    split
    · rename_i hbad
      refine iff_of_false (fun h => by cases h) ?_
      rintro (⟨h, -⟩ | ⟨⟨-, hnamed, hspace, htab, hreturn⟩, -⟩)
      · exact hblank h
      · obtain h | h | h | h | h := hbad
        · cases h
        · exact hnamed h
        · exact hspace h
        · exact htab h
        · exact hreturn h
    · rename_i hgood
      simp only [not_or] at hgood
      constructor
      · rintro ⟨⟩
        exact .inr ⟨⟨hstar, hgood.2.1, hgood.2.2⟩, rfl⟩
      · rintro (⟨h, -⟩ | ⟨-, rfl⟩)
        · exact absurd h hblank
        · rfl
  · rename_i hstar
    refine iff_of_false ?_ ?_
    · repeat' split
      all_goals first | (intro h; cases h; done) | contradiction
    · rintro (⟨h, -⟩ | ⟨h, -⟩)
      · exact hblank h
      · exact hstar h.star

/-- A line of a table that is blank has no rule. -/
theorem TableLine.of_blank {shellParse : Bytes → Option (List Bytes)} {line : Bytes}
    {arguments : List RuleArgument} (h : TableLine shellParse line arguments)
    (hblank : BlankLine line) : arguments = [] := by
  cases h with
  | blank => rfl
  | chain => rfl
  | rule hnot => exact absurd hblank hnot

/-- A line of a table is no header of another, and does not end it. -/
theorem TableLine.other {shellParse : Bytes → Option (List Bytes)} {line : Bytes}
    {arguments : List RuleArgument} (h : TableLine shellParse line arguments) :
    line.head? ≠ some 0x2a ∧ line ≠ commitLine := by
  cases h with
  | blank hblank =>
    refine ⟨hblank.head (by decide), ?_⟩
    rintro rfl
    exact not_blankLine_commitLine hblank
  | chain hcolon =>
    rw [hcolon]
    refine ⟨by decide, ?_⟩
    rintro rfl
    exact absurd (hcolon.symm.trans head_commitLine) (by decide)
  | rule _ hstar _ hcommit => exact ⟨hstar, hcommit⟩

/-- A chain is declared with a name and with counters. -/
theorem tableLine_chain_iff {shellParse : Bytes → Option (List Bytes)} {line : Bytes}
    {arguments : List RuleArgument} (hcolon : line.head? = some 0x3a) :
    TableLine shellParse line arguments ↔
      arguments = [] ∧ ∃ chain policy counters, shellParse line = some [chain, policy, counters] ∧
        chain.tail ≠ [] ∧ CounterPair counters := by
  constructor
  · intro h
    cases h with
    | blank hblank => exact absurd hcolon (hblank.head (by decide))
    | chain _ hwords hchain hcounters => exact ⟨rfl, _, _, _, hwords, hchain, hcounters⟩
    | rule _ _ hnot => exact absurd hcolon hnot
  · rintro ⟨rfl, chain, policy, counters, hwords, hchain, hcounters⟩
    exact .chain hcolon hwords hchain hcounters

/-- A rule is appended to a chain with its arguments. -/
theorem tableLine_rule_iff {shellParse : Bytes → Option (List Bytes)} {line : Bytes}
    {arguments : List RuleArgument} (hblank : ¬ BlankLine line) (hstar : line.head? ≠ some 0x2a)
    (hcolon : line.head? ≠ some 0x3a) (hcommit : line ≠ commitLine) :
    TableLine shellParse line arguments ↔
      ∃ chain words, shellParse line = some (appendFlag :: chain :: words) ∧ chain ≠ [] ∧
        ReadsAs words arguments := by
  constructor
  · intro h
    cases h with
    | blank h => exact absurd h hblank
    | chain h => exact absurd h hcolon
    | rule _ _ _ _ hwords hchain hreads => exact ⟨_, _, hwords, hchain, hreads⟩
  · rintro ⟨chain, words, hwords, hchain, hreads⟩
    exact .rule hblank hstar hcolon hcommit hwords hchain hreads

/-- What a line of a table leaves, where it is one. -/
theorem scanTableLine_iff {shellParse : Bytes → Option (List Bytes)} {expected : Bytes}
    {present found : Bool} {line : Bytes} (hblank : ¬ BlankLine line)
    (hstar : line.head? ≠ some 0x2a) (hcommit : line ≠ commitLine) :
    scanTableLine shellParse expected present line = some found ↔
      ∃ arguments, TableLine shellParse line arguments ∧
        found = (present || hasComment expected arguments) := by
  by_cases hcolon : line.head? = some 0x3a
  · simp only [tableLine_chain_iff hcolon]
    constructor
    · intro h
      unfold scanTableLine at h
      split at h
      · cases h
      · rename_i words hwords
        rw [if_pos hcolon] at h
        split at h
        · split at h
          · cases h
          · rename_i hgood
            rw [not_or, Bool.not_eq_false, counterPair_iff] at hgood
            obtain rfl := Option.some.inj h
            exact ⟨[], ⟨rfl, _, _, _, hwords, hgood⟩, (Bool.or_false present).symm⟩
        · cases h
    · rintro ⟨_, ⟨rfl, chain, policy, counters, hwords, hchain, hcounters⟩, rfl⟩
      have hgood : ¬ (chain.tail = [] ∨ counterPair counters = false) := by
        rw [not_or, Bool.not_eq_false, counterPair_iff]
        exact ⟨hchain, hcounters⟩
      rw [scanTableLine, hwords]
      dsimp only
      rw [if_pos hcolon, if_neg hgood]
      exact congrArg some (Bool.or_false present).symm
  · simp only [tableLine_rule_iff hblank hstar hcolon hcommit]
    constructor
    · intro h
      unfold scanTableLine at h
      split at h
      · cases h
      · rename_i words hwords
        rw [if_neg hcolon] at h
        split at h
        · split at h
          · cases h
          · rename_i hgood
            rw [not_or, not_not] at hgood
            obtain ⟨rfl, hchain⟩ := hgood
            obtain ⟨arguments, hreads, rfl⟩ := scanArguments_iff.mp h
            exact ⟨arguments, ⟨_, _, hwords, hchain, hreads⟩, rfl⟩
        · cases h
    · rintro ⟨arguments, ⟨chain, words, hwords, hchain, hreads⟩, rfl⟩
      rw [scanTableLine, hwords]
      dsimp only
      rw [if_neg hcolon, if_neg (by rw [not_or, not_not]; exact ⟨rfl, hchain⟩)]
      exact scanArguments_iff.mpr ⟨arguments, hreads, rfl⟩

/-- In a table there are its lines, and the line that ends it. -/
theorem line_inside {shellParse : Bytes → Option (List Bytes)} {expected : Bytes} {present : Bool}
    {line : Bytes} {scan : SaveScan} :
    SaveScan.line shellParse expected ⟨true, present⟩ line = some scan ↔
      (∃ arguments, TableLine shellParse line arguments ∧
        scan = ⟨true, present || hasComment expected arguments⟩) ∨
      line = commitLine ∧ scan = ⟨false, present⟩ := by
  have hsame : (present || hasComment expected []) = present := Bool.or_false present
  unfold SaveScan.line
  dsimp only
  split
  · rename_i hblank
    constructor
    · rintro ⟨⟩
      exact .inl ⟨[], .blank hblank, by rw [hsame]⟩
    · rintro (⟨arguments, hline, rfl⟩ | ⟨rfl, -⟩)
      · rw [hline.of_blank hblank, hsame]
      · exact absurd hblank not_blankLine_commitLine
  rename_i hblank
  split
  · rename_i hstar
    rw [if_pos (.inl rfl)]
    refine iff_of_false (fun h => by cases h) ?_
    rintro (⟨arguments, hline, -⟩ | ⟨rfl, -⟩)
    · exact hline.other.1 hstar
    · exact absurd (hstar.symm.trans head_commitLine) (by decide)
  rename_i hstar
  split
  · rename_i hcommit
    constructor
    · rintro ⟨⟩
      exact .inr ⟨hcommit, rfl⟩
    · rintro (⟨arguments, hline, -⟩ | ⟨-, rfl⟩)
      · exact absurd hcommit hline.other.2
      · rfl
  · rename_i hcommit
    rw [if_neg (by decide), Option.map_eq_some_iff]
    simp only [scanTableLine_iff hblank hstar hcommit]
    constructor
    · rintro ⟨_, ⟨arguments, hline, rfl⟩, rfl⟩
      exact .inl ⟨arguments, hline, rfl⟩
    · rintro (⟨arguments, hline, rfl⟩ | ⟨h, -⟩)
      · exact ⟨_, ⟨arguments, hline, rfl⟩, rfl⟩
      · exact absurd h hcommit

/-! ## Whole saves -/

/-- Some rule has the comment that is looked for. -/
def anyComment (expected : Bytes) (rules : List (List RuleArgument)) : Bool :=
  rules.any (hasComment expected)

/-- The lines of a save from within a table on: the rest of the table, its end and the lines behind
it. -/
def SaveRest (shellParse : Bytes → Option (List Bytes)) (lines : List Bytes)
    (rules : List (List RuleArgument)) : Prop :=
  ∃ body bodyRules lines' rules', lines = body ++ commitLine :: lines' ∧
    rules = bodyRules ++ rules' ∧ List.Forall₂ (TableLine shellParse) body bodyRules ∧
      SaveLines shellParse lines' rules'

theorem anyComment_cons (expected : Bytes) (arguments : List RuleArgument)
    (rules : List (List RuleArgument)) :
    anyComment expected (arguments :: rules) =
      (hasComment expected arguments || anyComment expected rules) :=
  List.any_cons

theorem saveLines_cons_iff {shellParse : Bytes → Option (List Bytes)} {line : Bytes}
    {lines : List Bytes} {rules : List (List RuleArgument)} :
    SaveLines shellParse (line :: lines) rules ↔
      BlankLine line ∧ SaveLines shellParse lines rules ∨
        TableHeader line ∧ SaveRest shellParse lines rules := by
  constructor
  · intro h
    generalize hall : line :: lines = all at h
    cases h with
    | nil => cases hall
    | blank hblank hlines =>
      obtain ⟨rfl, rfl⟩ := List.cons.inj hall
      exact .inl ⟨hblank, hlines⟩
    | table hheader hbody hlines =>
      obtain ⟨rfl, rfl⟩ := List.cons.inj hall
      exact .inr ⟨hheader, _, _, _, _, rfl, rfl, hbody, hlines⟩
  · rintro (⟨hblank, hlines⟩ | ⟨hheader, body, bodyRules, lines', rules', rfl, rfl, hbody, hlines⟩)
    · exact .blank hblank hlines
    · exact .table hheader hbody hlines

theorem saveRest_cons_iff {shellParse : Bytes → Option (List Bytes)} {line : Bytes}
    {lines : List Bytes} {rules : List (List RuleArgument)} :
    SaveRest shellParse (line :: lines) rules ↔
      (∃ arguments rules', TableLine shellParse line arguments ∧ rules = arguments :: rules' ∧
        SaveRest shellParse lines rules') ∨
      line = commitLine ∧ SaveLines shellParse lines rules := by
  constructor
  · rintro ⟨body, bodyRules, lines', rules', hall, rfl, hbody, hlines⟩
    cases hbody with
    | nil =>
      obtain ⟨rfl, rfl⟩ := List.cons.inj hall
      exact .inr ⟨rfl, hlines⟩
    | cons hline hbody =>
      obtain ⟨rfl, rfl⟩ := List.cons.inj hall
      exact .inl ⟨_, _, hline, rfl, _, _, _, _, rfl, rfl, hbody, hlines⟩
  · rintro (⟨arguments, _, hline, rfl, body, bodyRules, lines', rules', rfl, rfl, hbody, hlines⟩ |
      ⟨rfl, hlines⟩)
    · exact ⟨line :: body, arguments :: bodyRules, lines', rules', rfl, rfl, .cons hline hbody,
        hlines⟩
    · exact ⟨[], [], lines, rules, rfl, rfl, .nil, hlines⟩

theorem saveLines_nil_iff {shellParse : Bytes → Option (List Bytes)}
    {rules : List (List RuleArgument)} : SaveLines shellParse [] rules ↔ rules = [] := by
  constructor
  · intro h
    cases h
    rfl
  · rintro rfl
    exact .nil

theorem not_saveRest_nil {shellParse : Bytes → Option (List Bytes)}
    {rules : List (List RuleArgument)} : ¬ SaveRest shellParse [] rules := by
  rintro ⟨body, _, _, _, hall, -⟩
  exact absurd hall.symm (List.append_ne_nil_of_right_ne_nil body (List.cons_ne_nil _ _))

/-- The scan of lines ends outside the tables where they are a save, and has seen its comments. -/
theorem scan_lines {shellParse : Bytes → Option (List Bytes)} {expected : Bytes}
    {lines : List Bytes} {inTable present found : Bool} :
    lines.foldlM (SaveScan.line shellParse expected) ⟨inTable, present⟩ = some ⟨false, found⟩ ↔
      ∃ rules, (if inTable then SaveRest shellParse lines rules
        else SaveLines shellParse lines rules) ∧ found = (present || anyComment expected rules) := by
  induction lines generalizing inTable present with
  | nil =>
    rw [List.foldlM_nil, Option.pure_def, Option.some.injEq, SaveScan.mk.injEq]
    cases inTable with
    | false =>
      simp only [Bool.false_eq_true, if_false, saveLines_nil_iff, exists_eq_left, true_and]
      rw [anyComment, List.any_nil, Bool.or_false]
      exact eq_comm
    | true => simp only [Bool.true_eq_false, false_and, if_true, not_saveRest_nil, exists_false]
  | cons line lines ih =>
    rw [List.foldlM_cons, Option.bind_eq_bind, Option.bind_eq_some_iff]
    cases inTable with
    | false =>
      simp only [line_outside, Bool.false_eq_true, if_false, saveLines_cons_iff]
      constructor
      · rintro ⟨_, ⟨hline, rfl⟩ | ⟨hline, rfl⟩, hrest⟩
        · obtain ⟨rules, hrules, hfound⟩ := ih.mp hrest
          exact ⟨rules, .inl ⟨hline, hrules⟩, hfound⟩
        · obtain ⟨rules, hrules, hfound⟩ := ih.mp hrest
          exact ⟨rules, .inr ⟨hline, hrules⟩, hfound⟩
      · rintro ⟨rules, ⟨hline, hrules⟩ | ⟨hline, hrules⟩, hfound⟩
        · exact ⟨_, .inl ⟨hline, rfl⟩, ih.mpr ⟨rules, hrules, hfound⟩⟩
        · exact ⟨_, .inr ⟨hline, rfl⟩, ih.mpr ⟨rules, hrules, hfound⟩⟩
    | true =>
      simp only [line_inside, if_true, saveRest_cons_iff]
      constructor
      · rintro ⟨_, ⟨arguments, hline, rfl⟩ | ⟨hline, rfl⟩, hrest⟩
        · obtain ⟨rules, hrules, rfl⟩ := ih.mp hrest
          refine ⟨arguments :: rules, .inl ⟨arguments, rules, hline, rfl, hrules⟩, ?_⟩
          rw [anyComment_cons, Bool.or_assoc]
        · obtain ⟨rules, hrules, hfound⟩ := ih.mp hrest
          exact ⟨rules, .inr ⟨hline, hrules⟩, hfound⟩
      · rintro ⟨_, ⟨arguments, rules, hline, rfl, hrules⟩ | ⟨hline, hrules⟩, hfound⟩
        · refine ⟨_, .inl ⟨arguments, hline, rfl⟩, ih.mpr ⟨rules, hrules, ?_⟩⟩
          rw [hfound, anyComment_cons, Bool.or_assoc]
        · exact ⟨_, .inr ⟨hline, rfl⟩, ih.mpr ⟨_, hrules, hfound⟩⟩

/-- The pieces of a text of whole lines are the lines, with nothing behind the last. -/
theorem splitOn_wholeLines {lines : List Bytes} (h : ∀ line ∈ lines, newline ∉ line) :
    (lines.flatMap (· ++ [newline])).splitOn newline = lines ++ [[]] := by
  induction lines with
  | nil => rfl
  | cons line lines ih =>
    rw [List.flatMap_cons, List.append_assoc, List.singleton_append,
      List.splitOn_append_cons_self_of_not_mem (h line List.mem_cons_self),
      ih fun line hline => h line (List.mem_cons_of_mem _ hline), List.cons_append]

theorem wholeLines_ends {lines : List Bytes} (hne : lines.flatMap (· ++ [newline]) ≠ []) :
    (lines.flatMap (· ++ [newline])).getLast? = some newline := by
  induction lines with
  | nil => exact absurd rfl hne
  | cons line lines ih =>
    rw [List.flatMap_cons]
    by_cases hnil : lines.flatMap (· ++ [newline]) = []
    · rw [hnil, List.append_nil, List.getLast?_concat]
    · rw [List.getLast?_append_of_ne_nil _ hnil, ih hnil]

/-- A text that is empty or ends in a newline is one of whole lines. -/
theorem exists_wholeLines {text : Bytes} (h : text = [] ∨ text.getLast? = some newline) :
    ∃ lines : List Bytes, text = lines.flatMap (· ++ [newline]) ∧
      ∀ line ∈ lines, newline ∉ line := by
  induction text using lines_induction with
  | hnil => exact ⟨[], rfl, fun _ hline => absurd hline List.not_mem_nil⟩
  | hlast text hne hnone =>
    obtain h | h := h
    · exact absurd h hne
    · exact absurd (List.mem_of_getLast? h) hnone
  | hline pre rest hpre ih =>
    have hrest : rest = [] ∨ rest.getLast? = some newline := by
      by_cases hnil : rest = []
      · exact .inl hnil
      obtain h | h := h
      · exact absurd h (List.append_ne_nil_of_right_ne_nil pre (List.cons_ne_nil _ _))
      · rw [List.getLast?_append_of_ne_nil _ (List.cons_ne_nil _ _), ← List.singleton_append,
          List.getLast?_append_of_ne_nil _ hnil] at h
        exact .inr h
    obtain ⟨lines, rfl, hlines⟩ := ih hrest
    refine ⟨pre :: lines, ?_, ?_⟩
    · rw [List.flatMap_cons, List.append_assoc, List.singleton_append]
    · intro line hline
      obtain rfl | hline := List.mem_cons.mp hline
      · exact hpre
      · exact hlines line hline

/-- The output is read where it is a text of bounded length. -/
theorem outputText_iff {output : Option Bytes} {text : Bytes} :
    outputText output = some text ↔ output = some text ∧ text.length ≤ toolOutputLimit ∧
      0 ∉ text ∧ utf8Validate text = true := by
  cases output with
  | none => refine iff_of_false (fun h => by cases h) (fun h => by cases h.1)
  | some data =>
    rw [outputText, Option.bind_eq_bind, Option.bind_some]
    split
    · rename_i hbad
      refine iff_of_false (fun h => by cases h) ?_
      rintro ⟨⟨⟩, hlength, hnul, hvalid⟩
      obtain h | h | h := hbad
      · exact absurd hlength (Nat.not_le_of_gt h)
      · exact hnul h
      · exact absurd (hvalid.symm.trans h) (by decide)
    · rename_i hgood
      simp only [not_or, Nat.not_lt, Bool.not_eq_false] at hgood
      constructor
      · rintro ⟨⟩
        exact ⟨rfl, hgood⟩
      · rintro ⟨h, -⟩
        exact h

/-- The scan of the pieces of a text of whole lines is that of its lines. -/
theorem scan_wholeLines {shellParse : Bytes → Option (List Bytes)} {expected : Bytes}
    {lines : List Bytes} (h : ∀ line ∈ lines, newline ∉ line) :
    (strsplit newline (lines.flatMap (· ++ [newline]))).foldlM
        (SaveScan.line shellParse expected) ⟨false, false⟩ =
      lines.foldlM (SaveScan.line shellParse expected) ⟨false, false⟩ := by
  have hblank (scan : SaveScan) : SaveScan.line shellParse expected scan [] = some scan := rfl
  rw [strsplit]
  split
  · rename_i hnil
    cases lines with
    | nil => rfl
    | cons line lines =>
      rw [List.flatMap_cons, List.append_assoc] at hnil
      exact absurd hnil (List.append_ne_nil_of_right_ne_nil line (List.cons_ne_nil _ _))
  · rw [splitOn_wholeLines h, List.foldlM_append]
    exact (bind_congr fun scan => hblank scan).trans (bind_pure _)

/-- A save is read as what its rules say. -/
theorem parseIptablesSave_of_isSave {shellParse : Bytes → Option (List Bytes)} {name : Bytes}
    {output : Option Bytes} {rules : List (List RuleArgument)}
    (h : IsSave shellParse output rules) :
    parseIptablesSave shellParse name output =
      if anyComment (ruleComment name) rules then .present else .absent := by
  obtain ⟨lines, text, hout, hlength, hnul, hvalid, rfl, hnewline, hlines⟩ := h
  have hends : ¬ (lines.flatMap (· ++ [newline]) ≠ [] ∧
      (lines.flatMap (· ++ [newline])).getLast? ≠ some newline) :=
    fun hnot => hnot.2 (wholeLines_ends hnot.1)
  have hscan : lines.foldlM (SaveScan.line shellParse (ruleComment name)) ⟨false, false⟩ =
      some ⟨false, anyComment (ruleComment name) rules⟩ :=
    scan_lines.mpr ⟨rules, hlines, (Bool.false_or _).symm⟩
  rw [parseIptablesSave, outputText_iff.mpr ⟨hout, hlength, hnul, hvalid⟩]
  dsimp only
  rw [if_neg hends, scan_wholeLines hnewline, hscan]
  rfl

/-- What is not read as unknown is a save. -/
theorem isSave_of_known {shellParse : Bytes → Option (List Bytes)} {name : Bytes}
    {output : Option Bytes} (h : parseIptablesSave shellParse name output ≠ .unknown) :
    ∃ rules, IsSave shellParse output rules := by
  unfold parseIptablesSave at h
  split at h
  · exact absurd rfl h
  rename_i text htext
  obtain ⟨hout, hlength, hnul, hvalid⟩ := outputText_iff.mp htext
  split at h
  · exact absurd rfl h
  rename_i hends
  rw [not_and, not_not] at hends
  obtain ⟨lines, rfl, hnewline⟩ := exists_wholeLines (Classical.or_iff_not_imp_left.mpr hends)
  rw [scan_wholeLines hnewline] at h
  split at h
  · exact absurd rfl h
  rename_i scan hscan
  obtain ⟨inTable, found⟩ := scan
  cases inTable with
  | true => exact absurd rfl h
  | false =>
    obtain ⟨rules, hlines, -⟩ := scan_lines.mp hscan
    exact ⟨rules, lines, _, hout, hlength, hnul, hvalid, rfl, hnewline, hlines⟩

theorem anyComment_iff {expected : Bytes} {rules : List (List RuleArgument)} :
    anyComment expected rules = true ↔ ∃ arguments ∈ rules, .comment expected ∈ arguments := by
  simp only [anyComment, hasComment, List.any_eq_true, decide_eq_true_iff, exists_eq_right]

/-- A save says that a tunnel has rules where one of them has its comment, and that it has none where
none has. Of everything else it says nothing. -/
theorem parseIptablesSave_sound (shellParse : Bytes → Option (List Bytes)) (name : Bytes)
    (output : Option Bytes) :
    (parseIptablesSave shellParse name output = .present ↔ ∃ rules,
      IsSave shellParse output rules ∧
        ∃ arguments ∈ rules, .comment (ruleComment name) ∈ arguments) ∧
    (parseIptablesSave shellParse name output = .absent ↔ ∃ rules,
      IsSave shellParse output rules ∧
        ∀ arguments ∈ rules, .comment (ruleComment name) ∉ arguments) ∧
    (parseIptablesSave shellParse name output = .unknown ↔
      ¬ ∃ rules, IsSave shellParse output rules) := by
  have hpresent {rules : List (List RuleArgument)} (h : IsSave shellParse output rules) :
      parseIptablesSave shellParse name output = .present ↔
        ∃ arguments ∈ rules, .comment (ruleComment name) ∈ arguments := by
    rw [parseIptablesSave_of_isSave h, ← anyComment_iff]
    cases anyComment (ruleComment name) rules <;> simp
  have habsent {rules : List (List RuleArgument)} (h : IsSave shellParse output rules) :
      parseIptablesSave shellParse name output = .absent ↔
        ∀ arguments ∈ rules, .comment (ruleComment name) ∉ arguments := by
    have hnone : (∀ arguments ∈ rules, RuleArgument.comment (ruleComment name) ∉ arguments) ↔
        ¬ anyComment (ruleComment name) rules = true := by
      rw [anyComment_iff]
      simp only [not_exists, not_and]
    rw [parseIptablesSave_of_isSave h, hnone]
    cases anyComment (ruleComment name) rules <;> simp
  refine ⟨⟨?_, ?_⟩, ⟨?_, ?_⟩, ?_, ?_⟩
  · intro hstate
    obtain ⟨rules, hsave⟩ := @isSave_of_known shellParse name output (by rw [hstate]; decide)
    exact ⟨rules, hsave, (hpresent hsave).mp hstate⟩
  · rintro ⟨rules, hsave, hcomment⟩
    exact (hpresent hsave).mpr hcomment
  · intro hstate
    obtain ⟨rules, hsave⟩ := @isSave_of_known shellParse name output (by rw [hstate]; decide)
    exact ⟨rules, hsave, (habsent hsave).mp hstate⟩
  · rintro ⟨rules, hsave, hcomment⟩
    exact (habsent hsave).mpr hcomment
  · rintro hstate ⟨rules, hsave⟩
    rw [parseIptablesSave_of_isSave hsave] at hstate
    split at hstate <;> cases hstate
  · intro hnone
    by_contra hknown
    exact hnone (isSave_of_known hknown)

-- a table that is cut off before its end is not read as one without rules
example : parseIptablesSave (fun line => some (line.splitOn 0x20)) (ascii "awg0")
    (some (ascii "*filter\n:INPUT ACCEPT [1:60]\nCOMMIT\n")) = .absent := by decide +kernel

example : parseIptablesSave (fun line => some (line.splitOn 0x20)) (ascii "awg0")
    (some (ascii "*filter\n:INPUT ACCEPT [1:60]\n")) = .unknown := by decide +kernel

end NmSidebar
