import NmSidebar.Text.Bytes

/-!
# Physical lines

A text as its lines, each with the newline that ends it. Only the last line may lack one.
-/

namespace Text

/-- The byte that ends a line. -/
def newline : UInt8 := 0x0a

/-- The lines of a text, each with its newline. -/
def physicalLines : Bytes → List Bytes
  | [] => []
  | b :: rest =>
    if b = newline then [b] :: physicalLines rest
    else
      match physicalLines rest with
      | [] => [[b]]
      | line :: lines => (b :: line) :: lines

/-- A line without its newline. -/
def lineContent (line : Bytes) : Bytes := line.takeWhile fun b => b != newline

/-- The lines put together are the text. -/
theorem flatten_physicalLines (xs : Bytes) : (physicalLines xs).flatten = xs := by
  induction xs with
  | nil => rfl
  | cons b xs ih =>
    unfold physicalLines
    split
    · simp [ih]
    · cases hlines : physicalLines xs with
      | nil => simp_all
      | cons line lines => simp_all

/-- The first line of a text that has a newline. -/
theorem physicalLines_line {pre : Bytes} (h : newline ∉ pre) (rest : Bytes) :
    physicalLines (pre ++ newline :: rest) = (pre ++ [newline]) :: physicalLines rest := by
  induction pre with
  | nil => simp [physicalLines]
  | cons b pre ih =>
    have hb : b ≠ newline := fun hb => h (by simp [hb])
    have hpre : newline ∉ pre := fun hmem => h (List.mem_cons_of_mem _ hmem)
    rw [List.cons_append, physicalLines, if_neg hb, ih hpre]
    rfl

/-- A text without a newline is one line. -/
theorem physicalLines_last {xs : Bytes} (h : newline ∉ xs) (hne : xs ≠ []) :
    physicalLines xs = [xs] := by
  induction xs with
  | nil => exact absurd rfl hne
  | cons b xs ih =>
    have hb : b ≠ newline := fun hb => h (by simp [hb])
    have hxs : newline ∉ xs := fun hmem => h (List.mem_cons_of_mem _ hmem)
    rw [physicalLines, if_neg hb]
    by_cases hnil : xs = []
    · subst hnil
      rfl
    · rw [ih hxs hnil]

/-- Induction on the lines of a text. -/
theorem lines_induction {P : Bytes → Prop} (hnil : P [])
    (hlast : ∀ xs, xs ≠ [] → newline ∉ xs → P xs)
    (hline : ∀ pre rest, newline ∉ pre → P rest → P (pre ++ newline :: rest)) (xs : Bytes) :
    P xs := by
  induction hn : xs.length using Nat.strong_induction_on generalizing xs with
  | _ n ih =>
    cases hsplit : splitFirst newline xs with
    | none =>
      by_cases hxs : xs = []
      · exact hxs ▸ hnil
      · exact hlast xs hxs (splitFirst_eq_none.mp hsplit)
    | some parts =>
      obtain ⟨rfl, hpre⟩ := splitFirst_eq_some.mp hsplit
      refine hline parts.1 parts.2 hpre (ih parts.2.length ?_ parts.2 rfl)
      simp only [List.length_append, List.length_cons] at hn
      omega

/-- The content of a line that was split off. -/
theorem lineContent_line {pre : Bytes} (h : newline ∉ pre) :
    lineContent (pre ++ [newline]) = pre := by
  have hall : ∀ b ∈ pre, (b != newline) = true := fun b hb => by
    simpa using fun heq : b = newline => h (heq ▸ hb)
  rw [lineContent, List.takeWhile_append_of_pos hall]
  simp

theorem lineContent_last {xs : Bytes} (h : newline ∉ xs) : lineContent xs = xs :=
  List.takeWhile_eq_self_iff.mpr fun b hb => by
    simpa using fun heq : b = newline => h (heq ▸ hb)

theorem newline_notMem_lineContent (line : Bytes) : newline ∉ lineContent line := by
  intro h
  have := List.mem_takeWhile_imp h
  simp at this

/-- A stretch of lines, put together and taken apart again. -/
theorem physicalLines_flatten {lines : List Bytes} (h : ∀ line ∈ lines, ∃ pre,
    line = pre ++ [newline] ∧ newline ∉ pre) : physicalLines lines.flatten = lines := by
  induction lines with
  | nil => rfl
  | cons line lines ih =>
    obtain ⟨pre, rfl, hpre⟩ := h _ (List.mem_cons_self ..)
    rw [List.flatten_cons, List.append_assoc, List.singleton_append, physicalLines_line hpre,
      ih fun l hl => h l (List.mem_cons_of_mem _ hl)]

/-- Every line but the last one ends with its only newline, and the last one may. -/
theorem physicalLines_shape {xs : Bytes} {before after : List Bytes} {line : Bytes}
    (h : physicalLines xs = before ++ line :: after) :
    (∀ l ∈ before, ∃ pre, l = pre ++ [newline] ∧ newline ∉ pre) ∧
      ((∃ pre, line = pre ++ [newline] ∧ newline ∉ pre) ∨ (newline ∉ line ∧ after = [])) := by
  induction xs using lines_induction generalizing before with
  | hnil => simp [physicalLines] at h
  | hlast xs hne hxs =>
    rw [physicalLines_last hxs hne] at h
    cases before with
    | nil =>
      obtain ⟨rfl, rfl⟩ := List.cons.inj h
      exact ⟨by simp, .inr ⟨hxs, rfl⟩⟩
    | cons l before => simp at h
  | hline pre rest hpre ih =>
    rw [physicalLines_line hpre] at h
    cases before with
    | nil =>
      obtain ⟨rfl, rfl⟩ := List.cons.inj h
      exact ⟨by simp, .inl ⟨pre, rfl, hpre⟩⟩
    | cons l before =>
      obtain ⟨rfl, htail⟩ := List.cons.inj h
      obtain ⟨hbefore, hline⟩ := ih htail
      refine ⟨fun l hl => ?_, hline⟩
      rcases List.mem_cons.mp hl with rfl | hl
      · exact ⟨pre, rfl, hpre⟩
      · exact hbefore l hl

/-- The lines after a stretch of lines are the lines of what follows it. -/
theorem physicalLines_drop {xs : Bytes} {before after : List Bytes}
    (h : physicalLines xs = before ++ after) : physicalLines after.flatten = after := by
  induction xs using lines_induction generalizing before with
  | hnil =>
    obtain ⟨-, rfl⟩ := List.append_eq_nil_iff.mp h.symm
    rfl
  | hlast xs hne hxs =>
    rw [physicalLines_last hxs hne] at h
    cases before with
    | nil =>
      obtain rfl := h
      simpa using physicalLines_last hxs hne
    | cons l before =>
      simp only [List.cons_append, List.cons.injEq, List.nil_eq, List.append_eq_nil_iff] at h
      rw [h.2.2]
      rfl
  | hline pre rest hpre ih =>
    cases before with
    | nil =>
      have hafter : after = physicalLines (pre ++ newline :: rest) := h.symm
      rw [hafter, flatten_physicalLines]
    | cons l before =>
      rw [physicalLines_line hpre] at h
      exact ih (List.cons.inj h).2

/-- After a text that ends with a newline the lines start afresh. -/
theorem physicalLines_append {xs : Bytes} (h : xs = [] ∨ xs.getLast? = some newline) (ys : Bytes) :
    physicalLines (xs ++ ys) = physicalLines xs ++ physicalLines ys := by
  induction xs using lines_induction with
  | hnil => rfl
  | hlast xs hne hxs =>
    obtain rfl | hlast := h
    · exact absurd rfl hne
    · exact absurd (List.mem_of_getLast? hlast) hxs
  | hline pre rest hpre ih =>
    have hrest : rest = [] ∨ rest.getLast? = some newline := by
      by_cases hnil : rest = []
      · exact .inl hnil
      · refine .inr ?_
        rcases h with h | h
        · simp at h
        · rwa [List.getLast?_append_of_ne_nil _ (by simp), List.getLast?_cons,
            List.getLast?_eq_getLast_of_ne_nil hnil, Option.getD_some,
            ← List.getLast?_eq_getLast_of_ne_nil hnil] at h
    rw [List.append_assoc, List.cons_append, physicalLines_line hpre, physicalLines_line hpre,
      ih hrest, List.cons_append]

/-- Splitting at the newlines gives the contents of the lines, and an empty piece after a final
newline. -/
theorem splitOn_newline (xs : Bytes) :
    ∃ tail, xs.splitOn newline = (physicalLines xs).map lineContent ++ tail ∧
      (tail = [] ∨ tail = [[]]) := by
  induction xs using lines_induction with
  | hnil => exact ⟨[[]], rfl, .inr rfl⟩
  | hlast xs hne hxs =>
    refine ⟨[], ?_, .inl rfl⟩
    rw [List.splitOn_eq_singleton hxs, physicalLines_last hxs hne]
    simp [lineContent_last hxs]
  | hline pre rest hpre ih =>
    obtain ⟨tail, htail, hcases⟩ := ih
    refine ⟨tail, ?_, hcases⟩
    rw [List.splitOn_append_cons_self_of_not_mem hpre, physicalLines_line hpre, List.map_cons,
      lineContent_line hpre, htail, List.cons_append]

end Text
