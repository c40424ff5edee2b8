import Mathlib.Data.List.Perm.Basic
import Mathlib.Data.Nat.Notation

/-!
# Clusters of elements

Elements are put one after the other into the first cluster whose first member they belong with.
For an equivalence the clusters are its classes. The best element of a list is the first that none after
it is better than.
-/

namespace Collections

variable {α : Type}

/-- Elements that belong together. -/
structure Cluster (α : Type) where
  members : List α
  nonempty : members ≠ []

namespace Cluster

/-- The first member. -/
def first (g : Cluster α) : α := g.members.head g.nonempty

theorem first_mem (g : Cluster α) : g.first ∈ g.members := List.head_mem g.nonempty

/-- One more member, behind the others. -/
def add (g : Cluster α) (a : α) : Cluster α :=
  ⟨g.members ++ [a], List.append_ne_nil_of_right_ne_nil _ (List.cons_ne_nil _ _)⟩

end Cluster

/-! ## Clustering -/

/-- The element joins the first cluster that it belongs with, or begins a new one. -/
def place (same : α → α → Bool) (a : α) : List (Cluster α) → List (Cluster α)
  | [] => [⟨[a], List.cons_ne_nil _ _⟩]
  | g :: gs => if same g.first a then g.add a :: gs else g :: place same a gs

/-- The clusters of the elements. -/
def clusters (same : α → α → Bool) (xs : List α) : List (Cluster α) :=
  xs.foldl (fun gs a => place same a gs) []

/-- The elements of all clusters. -/
def elements (gs : List (Cluster α)) : List α := gs.flatMap Cluster.members

/-- The clusters are classes. -/
structure Classes (same : α → α → Bool) (gs : List (Cluster α)) : Prop where
  within : ∀ g ∈ gs, ∀ x ∈ g.members, ∀ y ∈ g.members, same x y = true
  apart : gs.Pairwise fun g g' => ∀ x ∈ g.members, ∀ y ∈ g'.members, same x y = false

section Clustering

variable {same : α → α → Bool} {gs : List (Cluster α)}

theorem elements_place (a : α) : (elements (place same a gs)).Perm (a :: elements gs) := by
  induction gs with
  | nil => exact .refl _
  | cons g gs ih =>
    unfold place elements
    split
    · rw [List.flatMap_cons, List.flatMap_cons]
      show ((g.members ++ [a]) ++ elements gs).Perm (a :: (g.members ++ elements gs))
      rw [List.append_assoc]
      exact List.perm_middle
    · rw [List.flatMap_cons, List.flatMap_cons]
      exact (ih.append_left _).trans List.perm_middle

theorem mem_elements {x : α} : x ∈ elements gs ↔ ∃ g ∈ gs, x ∈ g.members := List.mem_flatMap

theorem classes_place (hsame : Equivalence fun x y => same x y = true) (h : Classes same gs)
    (a : α) : Classes same (place same a gs) := by
  induction gs with
  | nil =>
    refine ⟨fun g hg x hx y hy => ?_, List.pairwise_singleton _ _⟩
    obtain rfl := List.mem_singleton.mp hg
    rw [List.mem_singleton.mp hx, List.mem_singleton.mp hy]
    exact hsame.refl a
  | cons g gs ih =>
    have hrest : Classes same gs :=
      ⟨fun g' hg' => h.within g' (List.mem_cons_of_mem _ hg'), (List.pairwise_cons.mp h.apart).2⟩
    have hfirst := (List.pairwise_cons.mp h.apart).1
    have hwithin := h.within g List.mem_cons_self
    unfold place
    split
    · rename_i hjoins
      -- the new member belongs with every other one through the first
      have hmember {x : α} (hx : x ∈ g.members ++ [a]) : same g.first x = true := by
        rcases List.mem_append.mp hx with hx | hx
        · exact hwithin _ g.first_mem x hx
        · rw [List.mem_singleton.mp hx]
          exact hjoins
      refine ⟨fun g' hg' => ?_, List.pairwise_cons.mpr ⟨fun g' hg' x hx y hy => ?_, hrest.apart⟩⟩
      · rcases List.mem_cons.mp hg' with rfl | hg'
        · exact fun x hx y hy => hsame.trans (hsame.symm (hmember hx)) (hmember hy)
        · exact hrest.within g' hg'
      · refine Bool.eq_false_iff.mpr fun hxy => ?_
        exact Bool.eq_false_iff.mp (hfirst g' hg' _ g.first_mem y hy) (hsame.trans (hmember hx) hxy)
    · rename_i hapart
      refine ⟨fun g' hg' => ?_,
        List.pairwise_cons.mpr ⟨fun g' hg' x hx y hy => ?_, (ih hrest).apart⟩⟩
      · rcases List.mem_cons.mp hg' with rfl | hg'
        · exact hwithin
        · exact (ih hrest).within g' hg'
      · rcases List.mem_cons.mp ((elements_place a).subset (mem_elements.mpr ⟨g', hg', hy⟩)) with
          rfl | hy
        · refine Bool.eq_false_iff.mpr fun hxy => hapart ?_
          exact hsame.trans (hwithin _ g.first_mem x hx) hxy
        · obtain ⟨g'', hg'', hy⟩ := mem_elements.mp hy
          exact hfirst g'' hg'' x hx y hy

/-- Every element is in a cluster. -/
theorem elements_clusters (xs : List α) : (elements (clusters same xs)).Perm xs := by
  have hfold (gs : List (Cluster α)) : (elements (xs.foldl (fun gs a => place same a gs) gs)).Perm
      (elements gs ++ xs) := by
    induction xs generalizing gs with
    | nil => rw [List.append_nil]; exact .refl _
    | cons a xs ih =>
      refine (ih _).trans (((elements_place a).append_right xs).trans ?_)
      exact List.perm_middle.symm
  exact hfold []

/-- The clusters are the classes of the elements. -/
theorem classes_clusters (hsame : Equivalence fun x y => same x y = true) (xs : List α) :
    Classes same (clusters same xs) := by
  have hfold (gs : List (Cluster α)) (h : Classes same gs) :
      Classes same (xs.foldl (fun gs a => place same a gs) gs) := by
    induction xs generalizing gs with
    | nil => exact h
    | cons a xs ih => exact ih _ (classes_place hsame h a)
  exact hfold [] ⟨nofun, .nil⟩

end Clustering

/-! ## The best element -/

/-- The best element, where a better one takes the place of the best so far. -/
def bestFrom (better : α → α → Bool) : Option α → List α → Option α
  | current, [] => current
  | none, a :: xs => bestFrom better (some a) xs
  | some b, a :: xs => bestFrom better (some (if better a b then a else b)) xs

/-- The best element of a list. -/
def best (better : α → α → Bool) (xs : List α) : Option α := bestFrom better none xs

section Best

variable {better : α → α → Bool} {xs : List α} {b : α}

theorem bestFrom_mem {current : Option α} (h : bestFrom better current xs = some b) :
    b ∈ xs ∨ current = some b := by
  induction xs generalizing current with
  | nil => exact .inr h
  | cons a xs ih =>
    cases current with
    | none =>
      refine .inl (List.mem_cons.mpr ?_)
      exact (ih h).symm.imp_left fun heq => (Option.some.inj heq).symm
    | some c =>
      rcases ih h with hmem | heq
      · exact .inl (List.mem_cons_of_mem _ hmem)
      split at heq
      · exact .inl (List.mem_cons.mpr (.inl (Option.some.inj heq).symm))
      · exact .inr heq

theorem best_mem (h : best better xs = some b) : b ∈ xs := (bestFrom_mem h).resolve_right nofun

/-- The best so far stays of a kind, where what is better than one of the kind is of it. -/
theorem bestFrom_keep {P : α → Prop} (hkeep : ∀ x y, P y → better x y = true → P x) (hb : P b) :
    ∃ c, bestFrom better (some b) xs = some c ∧ P c := by
  induction xs generalizing b with
  | nil => exact ⟨b, rfl, hb⟩
  | cons a xs ih =>
    apply ih
    split
    · exact hkeep a b hb ‹_›
    · exact hb

/-- The best element is of a kind where any of the kind is better than one that is not. -/
theorem exists_best {P : α → Prop} (hbetter : ∀ x y, P x → ¬P y → better x y = true)
    (hkeep : ∀ x y, P y → better x y = true → P x) (h : ∃ x ∈ xs, P x) :
    ∃ b, best better xs = some b ∧ P b := by
  have hfrom (current : Option α) : ∃ b, bestFrom better current xs = some b ∧ P b := by
    obtain ⟨x, hx, hP⟩ := h
    induction xs generalizing current with
    | nil => exact absurd hx List.not_mem_nil
    | cons a xs ih =>
      rcases List.mem_cons.mp hx with rfl | hx
      · cases current with
        | none => exact bestFrom_keep hkeep hP
        | some c =>
          have hnext : P (if better x c then x else c) := by
            by_cases hc : P c
            · split
              · exact hP
              · exact hc
            · rw [if_pos (hbetter x c hP hc)]
              exact hP
          show ∃ b, bestFrom better (some (if better x c then x else c)) xs = some b ∧ P b
          exact bestFrom_keep hkeep hnext
      · cases current with
        | none => exact ih _ hx
        | some c => exact ih _ hx
  exact hfrom none

theorem exists_best_of_ne_nil (h : xs ≠ []) : ∃ b, best better xs = some b := by
  obtain ⟨x, hx⟩ := List.exists_mem_of_ne_nil xs h
  obtain ⟨b, hb, -⟩ := @exists_best _ better xs (fun _ => True)
    (fun _ _ _ hy => absurd trivial hy) (fun _ _ _ _ => trivial) ⟨x, hx, trivial⟩
  exact ⟨b, hb⟩

end Best

end Collections
