import Mathlib.Data.List.DropRight
import Mathlib.Data.Nat.Notation
import Mathlib.Tactic.Common

/-!
# Ring buffers

A buffer of a fixed capacity that overwrites its oldest element when it is full. It is written at
`head` and read by an index from the oldest element on. What it holds is a list: putting an element
in appends it and keeps the last `capacity` elements.
-/

namespace Collections

/-- A ring buffer. The bounds that keep every index inside the cells are part of it. -/
structure RingBuffer (α : Type) (capacity : ℕ) where
  cells : Vector α capacity
  head : ℕ
  count : ℕ
  head_lt : head < capacity
  count_le : count ≤ capacity

namespace RingBuffer

variable {α : Type} {capacity : ℕ}

theorem capacity_pos (r : RingBuffer α capacity) : 0 < capacity :=
  Nat.lt_of_le_of_lt (Nat.zero_le _) r.head_lt

/-! ## Operations -/

/-- An empty buffer over some cells. -/
def ofCells (cells : Vector α capacity) (h : 0 < capacity) : RingBuffer α capacity :=
  ⟨cells, 0, 0, h, Nat.zero_le _⟩

/-- The element is written at the head, which moves on. -/
def push (r : RingBuffer α capacity) (a : α) : RingBuffer α capacity where
  cells := r.cells.set r.head a r.head_lt
  head := (r.head + 1) % capacity
  count := min (r.count + 1) capacity
  head_lt := Nat.mod_lt _ r.capacity_pos
  count_le := Nat.min_le_right _ _

/-- Everything is forgotten; the head stays where it is. -/
def clear (r : RingBuffer α capacity) : RingBuffer α capacity :=
  { r with count := 0, count_le := Nat.zero_le _ }

/-- The cell of the oldest element. -/
def oldest (r : RingBuffer α capacity) : ℕ := (r.head + capacity - r.count) % capacity

/-- The element at an index from the oldest on. -/
def get (r : RingBuffer α capacity) (index : ℕ) : α :=
  getElem r.cells ((r.oldest + index) % capacity) (Nat.mod_lt _ r.capacity_pos)

/-- The elements, oldest first. -/
def toList (r : RingBuffer α capacity) : List α := (List.range r.count).map r.get

/-! ## Indices -/

/-- A number below twice the modulus wraps at most once. -/
theorem mod_of_lt_double {x n : ℕ} (h : x < 2 * n) : x % n = if x < n then x else x - n := by
  split
  · exact Nat.mod_eq_of_lt ‹_›
  · rw [Nat.mod_eq_sub_mod (by omega)]
    exact Nat.mod_eq_of_lt (by omega)

/-- The subtraction that finds the oldest element does not underflow. -/
theorem count_le_head_add (r : RingBuffer α capacity) : r.count ≤ r.head + capacity :=
  Nat.le_trans r.count_le (Nat.le_add_left _ _)

/-- The cell of an element, reckoned from the head. -/
theorem cell_eq (r : RingBuffer α capacity) (index : ℕ) :
    (r.oldest + index) % capacity = (r.head + capacity - r.count + index) % capacity := by
  rw [oldest, Nat.mod_add_mod]

/-- The cell that a buffer with room writes to next is the one behind its newest element. -/
theorem cell_push_of_lt (r : RingBuffer α capacity) (a : α) (h : r.count < capacity) (index : ℕ) :
    ((r.push a).oldest + index) % capacity = (r.oldest + index) % capacity := by
  have hhead := r.head_lt
  have hcount : (r.push a).count = r.count + 1 := Nat.min_eq_left h
  have hnext : (r.push a).head = (r.head + 1) % capacity := rfl
  have hsame : (r.push a).oldest = r.oldest := by
    rw [oldest, oldest, hcount, hnext, mod_of_lt_double (x := r.head + 1) (by omega)]
    split
    · congr 1
      omega
    · -- the head has wrapped, so that the sum is smaller by the capacity
      have hshift : r.head + capacity - r.count = 0 + capacity - (r.count + 1) + capacity := by
        omega
      have hzero : r.head + 1 - capacity = 0 := by omega
      rw [hzero, hshift, Nat.add_mod_right]
  rw [hsame]

/-- In a full buffer every element moves one place towards the oldest. -/
theorem cell_push_of_full (r : RingBuffer α capacity) (a : α) (h : r.count = capacity) (index : ℕ) :
    ((r.push a).oldest + index) % capacity = (r.oldest + (index + 1)) % capacity := by
  have hcount : (r.push a).count = capacity := by
    show min (r.count + 1) capacity = capacity
    omega
  have hnext : (r.push a).head = (r.head + 1) % capacity := rfl
  rw [cell_eq, cell_eq, hcount, hnext, h, Nat.add_sub_cancel, Nat.add_sub_cancel, Nat.mod_add_mod]
  congr 1
  omega

/-- The head is the cell behind the newest element. -/
theorem cell_count (r : RingBuffer α capacity) : (r.oldest + r.count) % capacity = r.head := by
  have hhead := r.head_lt
  have hcount := r.count_le
  have hsum : r.head + capacity - r.count + r.count = r.head + capacity := by omega
  rw [cell_eq, hsum, Nat.add_mod_right]
  exact Nat.mod_eq_of_lt hhead

/-- The other elements are in other cells than the head's, but for the oldest of a full buffer. -/
theorem cell_ne_head (r : RingBuffer α capacity) {index : ℕ} (hindex : index < r.count)
    (hrest : r.count < capacity + index) : (r.oldest + index) % capacity ≠ r.head := by
  have hhead := r.head_lt
  have hcount := r.count_le
  rw [cell_eq, mod_of_lt_double (by omega)]
  split <;> omega

/-! ## Elements -/

/-- What is put in is read at the head. -/
theorem get_push_of_eq (r : RingBuffer α capacity) (a : α) {index : ℕ}
    (h : ((r.push a).oldest + index) % capacity = r.head) : (r.push a).get index = a := by
  have hcell : (r.push a).cells = r.cells.set r.head a r.head_lt := rfl
  simp only [get, hcell, h, Vector.getElem_set_self]

/-- The other cells are read as before. -/
theorem get_push_of_ne (r : RingBuffer α capacity) (a : α) {index index' : ℕ}
    (h : ((r.push a).oldest + index) % capacity = (r.oldest + index') % capacity)
    (hne : (r.oldest + index') % capacity ≠ r.head) : (r.push a).get index = r.get index' := by
  have hcell : (r.push a).cells = r.cells.set r.head a r.head_lt := rfl
  simp only [get, hcell, h]
  exact Vector.getElem_set_ne _ _ hne.symm

@[simp] theorem length_toList (r : RingBuffer α capacity) : r.toList.length = r.count := by
  rw [toList, List.length_map, List.length_range]

theorem getElem?_toList (r : RingBuffer α capacity) {index : ℕ} (h : index < r.count) :
    r.toList[index]? = some (r.get index) := by
  rw [toList, List.getElem?_map, List.getElem?_range h]
  rfl

@[simp] theorem toList_ofCells (cells : Vector α capacity) (h : 0 < capacity) :
    (ofCells cells h).toList = [] := rfl

@[simp] theorem toList_clear (r : RingBuffer α capacity) : r.clear.toList = [] := rfl

/-- A buffer with room holds one more element. -/
theorem toList_push_of_lt (r : RingBuffer α capacity) (a : α) (h : r.count < capacity) :
    (r.push a).toList = r.toList ++ [a] := by
  have hcount : (r.push a).count = r.count + 1 := Nat.min_eq_left h
  have hlast : (r.push a).get r.count = a :=
    r.get_push_of_eq a ((r.cell_push_of_lt a h r.count).trans r.cell_count)
  rw [toList, hcount, List.range_succ, List.map_append, List.map_singleton, hlast, toList]
  congr 1
  refine List.map_congr_left fun index hindex => ?_
  have hindex := List.mem_range.mp hindex
  exact r.get_push_of_ne a (r.cell_push_of_lt a h index) (r.cell_ne_head hindex (by omega))

/-- A full buffer gives up its oldest element. -/
theorem toList_push_of_full (r : RingBuffer α capacity) (a : α) (h : r.count = capacity) :
    (r.push a).toList = r.toList.tail ++ [a] := by
  have hpos := r.capacity_pos
  obtain ⟨n, hn⟩ : ∃ n, capacity = n + 1 := ⟨capacity - 1, by omega⟩
  have hsize : r.count = n + 1 := h.trans hn
  have hcount : (r.push a).count = n + 1 := by
    show min (r.count + 1) capacity = n + 1
    omega
  have hnewest : (r.push a).get n = a := by
    refine r.get_push_of_eq a ((r.cell_push_of_full a h n).trans ?_)
    rw [← hsize]
    exact r.cell_count
  have hold : r.toList.tail = (List.range n).map fun index => r.get (index + 1) := by
    rw [toList, hsize, List.range_succ_eq_map, List.map_cons, List.tail_cons, List.map_map]
    rfl
  rw [hold, toList, hcount, List.range_succ, List.map_append, List.map_singleton, hnewest]
  congr 1
  refine List.map_congr_left fun index hindex => ?_
  have hindex := List.mem_range.mp hindex
  exact r.get_push_of_ne a (r.cell_push_of_full a h index)
    (r.cell_ne_head (by omega) (by omega))

/-! ## The last elements of a list -/

/-- Where the buffer holds the last elements of a list, it does so once one more is put in. -/
theorem toList_push {r : RingBuffer α capacity} {items : List α}
    (h : r.toList = items.rtake capacity) (a : α) :
    (r.push a).toList = (items ++ [a]).rtake capacity := by
  have hlength : r.count = min capacity items.length := by
    rw [← r.length_toList, h, List.rtake, List.length_drop]
    omega
  rw [List.rtake, List.length_append, List.length_singleton]
  rw [List.rtake] at h
  by_cases hroom : r.count < capacity
  · have hfirst : items.length - capacity = 0 := by omega
    have hnow : items.length + 1 - capacity = 0 := by omega
    rw [toList_push_of_lt r a hroom, h, hfirst, hnow, List.drop_zero, List.drop_zero]
  · have hcount := r.count_le
    have hnow : items.length + 1 - capacity = items.length - capacity + 1 := by omega
    rw [toList_push_of_full r a (by omega), h, hnow, List.tail_drop,
      List.drop_append_of_le_length (by have := r.capacity_pos; omega)]

end RingBuffer

end Collections
