import Mathlib.Data.List.Rotate
import Mathlib.Tactic.Common

set_option relaxedAutoImplicit false
set_option autoImplicit false

/-!
# Ring buffers

A queue kept in a fixed array of cells with two indices, the next cell to read and the next cell
to fill. The indices are equal exactly when the queue is empty, so one cell always stays free
and a ring of `c` cells stores at most `c - 1` elements.

## Main definitions

* `List.blit` — a list with a segment overwritten.
* `RingBuffer` — the cells and two indices in range.
* `RingBuffer.toList` — the stored elements, oldest first.
* `RingBuffer.offer`, `RingBuffer.skip` — append as many elements as fit, remove elements from
  the front.

## Main results

* `RingBuffer.toList_offer`, `RingBuffer.toList_skip` — the two operations are `++` and `drop`
  on the stored elements.
* `RingBuffer.offer_offer` — appending twice is appending once.
* `RingBuffer.take_drop_cells` — a segment of the array that starts at the read index holds the
  front of the queue.
-/

namespace List

variable {α : Type*}

/-- The list `l` with the segment that starts at `off` overwritten by `xs`. -/
def blit (l : List α) (off : ℕ) (xs : List α) : List α :=
  l.take off ++ xs ++ l.drop (off + xs.length)

/-- Overwriting a segment inside the list keeps the length. -/
theorem length_blit {l : List α} {off : ℕ} {xs : List α} (h : off + xs.length ≤ l.length) :
    (l.blit off xs).length = l.length := by
  simp only [blit, length_append, length_take, length_drop]
  omega

/-- Overwriting with nothing changes nothing. -/
@[simp] theorem blit_nil (l : List α) (off : ℕ) : l.blit off [] = l := by
  simp [blit]

/-- A list that was overwritten from its start begins with the new elements. -/
theorem take_blit_zero (l xs : List α) : (l.blit 0 xs).take xs.length = xs := by
  rw [blit, take_zero, nil_append, take_left]

/-- The element at `i` after a segment has been overwritten: the new one inside the segment, the
old one elsewhere. -/
theorem getElem?_blit {l : List α} {off : ℕ} {xs : List α} (h : off + xs.length ≤ l.length)
    (i : ℕ) : (l.blit off xs)[i]? =
      if off ≤ i ∧ i < off + xs.length then xs[i - off]? else l[i]? := by
  have hlen : (l.take off).length = off := length_take_of_le (by omega)
  unfold blit
  rcases Nat.lt_or_ge i off with h1 | h1
  · rw [if_neg (by omega), append_assoc, getElem?_append_left (by omega), getElem?_take_of_lt h1]
  · rcases Nat.lt_or_ge i (off + xs.length) with h2 | h2
    · rw [if_pos ⟨h1, h2⟩, getElem?_append_left (by simp only [length_append]; omega),
        getElem?_append_right (by omega), hlen]
    · rw [if_neg (by omega), getElem?_append_right (by simp only [length_append]; omega),
        getElem?_drop, length_append, hlen]
      congr 1
      omega

end List

/-- A ring buffer: an array of cells with a read index and a fill index, both in range. -/
structure RingBuffer (α : Type*) where
  /-- The array. -/
  cells : List α
  /-- The next cell to read. -/
  readIndex : ℕ
  /-- The next cell to fill. -/
  fillIndex : ℕ
  /-- The read index is in range. -/
  readIndex_lt : readIndex < cells.length
  /-- The fill index is in range. -/
  fillIndex_lt : fillIndex < cells.length

namespace RingBuffer

variable {α : Type*} (r : RingBuffer α)

/-- Two ring buffers with the same cells and indices are equal. -/
@[ext] theorem ext {r r' : RingBuffer α} (hc : r.cells = r'.cells)
    (hr : r.readIndex = r'.readIndex) (hf : r.fillIndex = r'.fillIndex) : r = r' := by
  cases r; cases r'
  simp only at hc hr hf
  subst hc hr hf
  rfl

/-- The number of cells. -/
def capacity : ℕ := r.cells.length

/-- The number of stored elements: the way from the read index to the fill index, around the end
of the array if the fill index is behind. -/
def size : ℕ :=
  if r.readIndex ≤ r.fillIndex then r.fillIndex - r.readIndex
  else r.fillIndex + r.capacity - r.readIndex

/-- The number of elements that still fit; one cell stays free. -/
def vacant : ℕ := r.capacity - 1 - r.size

/-- The stored elements, oldest first. -/
def toList : List α := (r.cells.rotate r.readIndex).take r.size

/-- A ring has at least one cell. -/
theorem capacity_pos : 0 < r.capacity := Nat.lt_of_le_of_lt (Nat.zero_le _) r.readIndex_lt

/-- The read index is below the capacity. -/
theorem readIndex_lt_capacity : r.readIndex < r.capacity := r.readIndex_lt

/-- The fill index is below the capacity. -/
theorem fillIndex_lt_capacity : r.fillIndex < r.capacity := r.fillIndex_lt

/-- One cell is always free. -/
theorem size_lt_capacity : r.size < r.capacity := by
  have hr := r.readIndex_lt_capacity
  have hf := r.fillIndex_lt_capacity
  unfold size
  split_ifs <;> omega

/-- Stored and vacant elements make up the capacity, less the free cell. -/
theorem size_add_vacant : r.size + r.vacant = r.capacity - 1 := by
  have := r.size_lt_capacity
  unfold vacant
  omega

/-- An index less than two turns from the start of the array, reduced to the array. -/
theorem mod_capacity {i : ℕ} (h : i < 2 * r.capacity) :
    i % r.capacity = if i < r.capacity then i else i - r.capacity := by
  split_ifs with hi
  · exact Nat.mod_eq_of_lt hi
  · rw [Nat.mod_eq_sub_mod (by omega), Nat.mod_eq_of_lt (by omega)]

/-- The fill index is `size` cells after the read index. -/
theorem fillIndex_eq : r.fillIndex = (r.readIndex + r.size) % r.capacity := by
  have hr := r.readIndex_lt_capacity
  have hf := r.fillIndex_lt_capacity
  have hs := r.size_lt_capacity
  rw [r.mod_capacity (by omega)]
  unfold size
  split_ifs <;> omega

/-- The ring is empty when the indices meet. -/
theorem size_eq_zero_iff : r.size = 0 ↔ r.readIndex = r.fillIndex := by
  have hr := r.readIndex_lt
  have hf := r.fillIndex_lt
  unfold size capacity
  split_ifs with hw
  · omega
  · omega

/-- The size from the two indices, for a fill index given as a distance from the read index. -/
theorem size_eq_of_fillIndex {k : ℕ} (hk : k < r.capacity)
    (h : r.fillIndex = (r.readIndex + k) % r.capacity) : r.size = k := by
  have hr := r.readIndex_lt_capacity
  rw [r.mod_capacity (by omega)] at h
  unfold size
  split_ifs at * <;> omega

/-- The `k`-th stored element is in the `k`-th cell after the read index. -/
theorem getElem?_toList {k : ℕ} :
    r.toList[k]? =
      if k < r.size then r.cells[(r.readIndex + k) % r.capacity]? else none := by
  have hs := r.size_lt_capacity
  unfold toList
  rw [List.getElem?_take]
  split_ifs with hk
  · rw [List.getElem?_rotate (by unfold capacity at *; omega), Nat.add_comm]
    rfl
  · rfl

/-- There are `size` stored elements. -/
@[simp] theorem length_toList : r.toList.length = r.size := by
  have hs : r.size < r.cells.length := r.size_lt_capacity
  simp only [toList, List.length_take, List.length_rotate]
  omega

/-- The next element to read is the front of the queue. -/
theorem getElem?_readIndex (h : 0 < r.size) : r.cells[r.readIndex]? = r.toList.head? := by
  rw [List.head?_eq_getElem?, getElem?_toList, if_pos h, Nat.add_zero,
    Nat.mod_eq_of_lt r.readIndex_lt_capacity]

/-- A segment of the array that starts at the read index, does not run over its end and is no
longer than the queue holds the front of the queue. -/
theorem take_drop_cells {n : ℕ} (hn : n ≤ r.size) (hc : r.readIndex + n ≤ r.capacity) :
    (r.cells.drop r.readIndex).take n = r.toList.take n := by
  apply List.ext_getElem?
  intro k
  rw [List.getElem?_take, List.getElem?_take]
  split_ifs with hk
  · rw [List.getElem?_drop, getElem?_toList, if_pos (by omega), Nat.mod_eq_of_lt (by omega)]
  · rfl

/-! ## The empty ring -/

/-- An empty ring over an array, with both indices at its start. -/
def empty (cells : List α) (h : 0 < cells.length) : RingBuffer α := ⟨cells, 0, 0, h, h⟩

/-- Nothing is stored in an empty ring. -/
@[simp] theorem toList_empty (cells : List α) (h : 0 < cells.length) :
    (empty cells h).toList = [] := by
  simp [toList, empty, size]

/-! ## Removing from the front -/

/-- Remove the first `n` stored elements, or all of them if there are fewer. -/
def skip (n : ℕ) : RingBuffer α where
  cells := r.cells
  readIndex := (r.readIndex + min n r.size) % r.capacity
  fillIndex := r.fillIndex
  readIndex_lt := Nat.mod_lt _ r.capacity_pos
  fillIndex_lt := r.fillIndex_lt

/-- Removing elements keeps the array. -/
@[simp] theorem capacity_skip (n : ℕ) : (r.skip n).capacity = r.capacity := rfl

/-- Removing nothing changes nothing. -/
@[simp] theorem skip_zero : r.skip 0 = r := by
  refine RingBuffer.ext (by rfl) ?_ (by rfl)
  change (r.readIndex + min 0 r.size) % r.capacity = r.readIndex
  rw [Nat.zero_min, Nat.add_zero, Nat.mod_eq_of_lt r.readIndex_lt_capacity]

/-- Removing elements makes the queue shorter by as many. -/
@[simp] theorem size_skip (n : ℕ) : (r.skip n).size = r.size - n := by
  have hr := r.readIndex_lt_capacity
  have hf := r.fillIndex_lt_capacity
  have hs := r.size_lt_capacity
  apply size_eq_of_fillIndex
  · rw [capacity_skip]; omega
  · change r.fillIndex = ((r.readIndex + min n r.size) % r.capacity + (r.size - n)) % r.capacity
    rw [Nat.mod_add_mod, r.fillIndex_eq]
    congr 1
    omega

/-- Removing elements is `drop` on the queue.

**Proof sketch.** Element `k` after the removal is `k + min n size` cells after the old read
index. -/
@[simp] theorem toList_skip (n : ℕ) : (r.skip n).toList = r.toList.drop n := by
  apply List.ext_getElem?
  intro k
  rw [getElem?_toList, List.getElem?_drop, getElem?_toList, size_skip]
  by_cases hk : n + k < r.size
  · rw [if_pos (by omega), if_pos hk]
    change r.cells[((r.readIndex + min n r.size) % r.capacity + k) % r.capacity]? = _
    rw [Nat.mod_add_mod, Nat.min_eq_left (by omega), Nat.add_assoc]
  · rw [if_neg (by omega), if_neg hk]

/-! ## Appending at the back -/

/-- The part of `xs` that fits. -/
def accepted (xs : List α) : List α := xs.take r.vacant

/-- No more is accepted than fits. -/
theorem length_accepted (xs : List α) :
    (r.accepted xs).length = min xs.length r.vacant := by
  simp [accepted, Nat.min_comm]

/-- What is accepted of a list is its beginning. -/
theorem take_length_accepted (xs : List α) : xs.take (r.accepted xs).length = r.accepted xs := by
  rw [length_accepted, accepted, Nat.min_comm, ← List.take_eq_take_min]

/-- The array after the accepted elements have been filled in from the fill index on, going on at
the start of the array when its end is reached. -/
def fill (xs : List α) : List α :=
  (r.cells.blit r.fillIndex (xs.take (r.capacity - r.fillIndex))).blit 0
    (xs.drop (r.capacity - r.fillIndex))

/-- The two segments that are filled in are in the array, if there is room for all elements. -/
theorem segments_le {xs : List α} (h : xs.length ≤ r.vacant) :
    r.fillIndex + (xs.take (r.capacity - r.fillIndex)).length ≤ r.cells.length ∧
      0 + (xs.drop (r.capacity - r.fillIndex)).length ≤
        (r.cells.blit r.fillIndex (xs.take (r.capacity - r.fillIndex))).length := by
  have hf := r.fillIndex_lt_capacity
  have hv := r.size_add_vacant
  have hfirst : r.fillIndex + (xs.take (r.capacity - r.fillIndex)).length ≤ r.cells.length := by
    simp only [List.length_take, capacity] at *
    omega
  refine ⟨hfirst, ?_⟩
  rw [List.length_blit hfirst]
  simp only [List.length_drop, capacity] at *
  omega

/-- Filling keeps the length of the array. -/
theorem length_fill {xs : List α} (h : xs.length ≤ r.vacant) :
    (r.fill xs).length = r.capacity := by
  obtain ⟨h1, h2⟩ := r.segments_le h
  rw [fill, List.length_blit h2, List.length_blit h1]
  rfl

/-- The cell `k` after the fill index holds the `k`-th new element, for each new element.

**Proof sketch.** Up to the end of the array the cell is in the first segment; after it, the cell
is in the second segment, at the start of the array. -/
theorem getElem?_fill_new {xs : List α} (h : xs.length ≤ r.vacant) {k : ℕ} (hk : k < xs.length) :
    (r.fill xs)[(r.fillIndex + k) % r.capacity]? = xs[k]? := by
  have hf := r.fillIndex_lt_capacity
  have hv := r.size_add_vacant
  obtain ⟨h1, h2⟩ := r.segments_le h
  unfold fill
  rw [List.getElem?_blit h2, r.mod_capacity (by omega)]
  by_cases hw : r.fillIndex + k < r.capacity
  · rw [if_pos hw, if_neg (by simp only [List.length_drop]; omega), List.getElem?_blit h1,
      if_pos (by simp only [List.length_take]; omega), List.getElem?_take_of_lt (by omega)]
    congr 1
    omega
  · rw [if_neg hw, if_pos (by simp only [List.length_drop]; omega), List.getElem?_drop]
    congr 1
    omega

/-- A cell that is not among the next cells to fill keeps its element.

**Proof sketch.** Such a cell lies in neither of the two overwritten segments. -/
theorem getElem?_fill_old {xs : List α} (h : xs.length ≤ r.vacant) {i : ℕ} (hi : i < r.capacity)
    (hne : ∀ k < xs.length, i ≠ (r.fillIndex + k) % r.capacity) :
    (r.fill xs)[i]? = r.cells[i]? := by
  have hf := r.fillIndex_lt_capacity
  have hv := r.size_add_vacant
  obtain ⟨h1, h2⟩ := r.segments_le h
  have hfirst : r.fillIndex ≤ i → ¬ i - r.fillIndex < xs.length := by
    intro hle hlt
    apply hne _ hlt
    rw [Nat.mod_eq_of_lt (by omega)]
    omega
  have hsecond : ¬ i + (r.capacity - r.fillIndex) < xs.length := by
    intro hlt
    apply hne _ hlt
    rw [r.mod_capacity (by omega), if_neg (by omega)]
    omega
  unfold fill
  rw [List.getElem?_blit h2, if_neg (by simp only [List.length_drop]; omega),
    List.getElem?_blit h1, if_neg (by simp only [List.length_take]; omega)]

/-- Filling that stops before the end of the array overwrites one segment. -/
theorem fill_of_le {xs : List α} (h : xs.length ≤ r.capacity - r.fillIndex) :
    r.fill xs = r.cells.blit r.fillIndex xs := by
  rw [fill, List.take_of_length_le h, List.drop_eq_nil_of_le h, List.blit_nil]

/-- Append as many elements of `xs` as fit. -/
def offer (xs : List α) : RingBuffer α where
  cells := r.fill (r.accepted xs)
  readIndex := r.readIndex
  fillIndex := (r.fillIndex + (r.accepted xs).length) % r.capacity
  readIndex_lt := by
    rw [length_fill r (by rw [length_accepted]; omega)]
    exact r.readIndex_lt
  fillIndex_lt := by
    rw [length_fill r (by rw [length_accepted]; omega)]
    exact Nat.mod_lt _ r.capacity_pos

/-- Appending changes nothing when nothing is accepted. -/
theorem offer_eq_self {xs : List α} (h : r.accepted xs = []) : r.offer xs = r := by
  apply RingBuffer.ext
  · change r.fill (r.accepted xs) = r.cells
    rw [h, fill_of_le r (by simp), List.blit_nil]
  · rfl
  · change (r.fillIndex + (r.accepted xs).length) % r.capacity = r.fillIndex
    rw [h, List.length_nil, Nat.add_zero, Nat.mod_eq_of_lt r.fillIndex_lt_capacity]

/-- Appending keeps the number of cells. -/
@[simp] theorem capacity_offer (xs : List α) : (r.offer xs).capacity = r.capacity :=
  length_fill r (by rw [length_accepted]; omega)

/-- Appending makes the queue longer by what is accepted. -/
@[simp] theorem size_offer (xs : List α) :
    (r.offer xs).size = r.size + (r.accepted xs).length := by
  have hv := r.size_add_vacant
  have hc := r.capacity_pos
  have hl := r.length_accepted xs
  apply size_eq_of_fillIndex
  · rw [capacity_offer]; omega
  · rw [capacity_offer]
    change (r.fillIndex + _) % r.capacity = (r.readIndex + _) % r.capacity
    rw [← Nat.add_assoc, ← Nat.mod_add_mod (r.readIndex + r.size), ← r.fillIndex_eq]

/-- **Appending is `++` on the queue**, with what is accepted.

**Proof sketch.** A stored element keeps its cell: it is closer to the read index than any cell
that is filled. A new element is found the old size after the read index. -/
@[simp] theorem toList_offer (xs : List α) :
    (r.offer xs).toList = r.toList ++ r.accepted xs := by
  have hv := r.size_add_vacant
  have hr := r.readIndex_lt_capacity
  have hc := r.capacity_pos
  have hl := r.length_accepted xs
  have hle : (r.accepted xs).length ≤ r.vacant := by omega
  apply List.ext_getElem?
  intro k
  rw [getElem?_toList, size_offer, capacity_offer]
  change (if _ then (r.fill (r.accepted xs))[(r.readIndex + k) % r.capacity]? else none) = _
  rcases Nat.lt_or_ge k r.size with hk | hk
  · rw [if_pos (by omega), List.getElem?_append_left (by rwa [length_toList]), getElem?_toList,
      if_pos hk]
    apply getElem?_fill_old r hle (Nat.mod_lt _ hc)
    intro j hj
    rw [r.fillIndex_eq, Nat.mod_add_mod, r.mod_capacity (by omega), r.mod_capacity (by omega)]
    split_ifs <;> omega
  · rw [List.getElem?_append_right (by rwa [length_toList]), length_toList]
    by_cases hk2 : k < r.size + (r.accepted xs).length
    · rw [if_pos hk2, ← getElem?_fill_new r hle (k := k - r.size) (by omega), r.fillIndex_eq,
        Nat.mod_add_mod]
      congr 2
      omega
    · rw [if_neg hk2, List.getElem?_eq_none (by omega)]

/-- What is accepted of two lists one after the other. -/
theorem accepted_append (xs ys : List α) :
    r.accepted (xs ++ ys) = r.accepted xs ++ (r.offer xs).accepted ys := by
  have hv := r.size_add_vacant
  have hl := r.length_accepted xs
  have hvac : (r.offer xs).vacant = r.vacant - xs.length := by
    have := (r.offer xs).size_add_vacant
    rw [size_offer, capacity_offer] at this
    omega
  simp only [accepted, List.take_append, hvac]

/-- Two cells among the next to fill are the same only if they have the same distance. -/
theorem fill_cell_inj {j k : ℕ} (hj : j < r.capacity) (hk : k < r.capacity)
    (h : (r.fillIndex + j) % r.capacity = (r.fillIndex + k) % r.capacity) : j = k := by
  have hf := r.fillIndex_lt_capacity
  rw [r.mod_capacity (by omega), r.mod_capacity (by omega)] at h
  split_ifs at h <;> omega

/-- **Appending twice is appending once**: also the cells are the same.

**Proof sketch.** The cells are compared one by one. A cell that is filled the first time is not
filled again, and one that is filled the second time lies as far behind the first fill index as its
element lies in the two lists together. -/
theorem offer_offer (xs ys : List α) : (r.offer xs).offer ys = r.offer (xs ++ ys) := by
  have hv := r.size_add_vacant
  have hc := r.capacity_pos
  have ha := r.length_accepted xs
  have hb := (r.offer xs).length_accepted ys
  have hsv := (r.offer xs).size_add_vacant
  rw [size_offer, capacity_offer] at hsv
  set a := r.accepted xs with ha_def
  set b := (r.offer xs).accepted ys with hb_def
  have hacc : r.accepted (xs ++ ys) = a ++ b := r.accepted_append xs ys
  have hlen : (a ++ b).length ≤ r.vacant := by
    rw [← hacc, length_accepted]
    omega
  have hfill : (r.offer xs).fillIndex = (r.fillIndex + a.length) % r.capacity := rfl
  rw [List.length_append] at hlen
  apply RingBuffer.ext
  · change (r.offer xs).fill b = r.fill (r.accepted (xs ++ ys))
    rw [hacc]
    apply List.ext_getElem?
    intro i
    by_cases hi : i < r.capacity
    · by_cases hnew : ∃ k < (a ++ b).length, i = (r.fillIndex + k) % r.capacity
      · obtain ⟨k, hk, rfl⟩ := hnew
        rw [r.getElem?_fill_new (by rw [List.length_append]; omega) hk]
        rw [List.length_append] at hk
        by_cases hka : k < a.length
        · -- filled the first time
          rw [List.getElem?_append_left hka, ← r.getElem?_fill_new (by omega) hka]
          apply (r.offer xs).getElem?_fill_old (by omega) (by rw [capacity_offer]; exact hi)
          intro j hj heq
          rw [hfill, capacity_offer, Nat.mod_add_mod, Nat.add_assoc] at heq
          have := r.fill_cell_inj (by omega) (by omega) heq
          omega
        · -- filled the second time
          rw [List.getElem?_append_right (by omega),
            ← (r.offer xs).getElem?_fill_new (by omega) (k := k - a.length) (by omega), hfill,
            capacity_offer, Nat.mod_add_mod]
          congr 2
          omega
      · push Not at hnew
        rw [List.length_append] at hnew
        rw [r.getElem?_fill_old (by rw [List.length_append]; omega) hi
          (by rw [List.length_append]; exact hnew)]
        rw [← r.getElem?_fill_old (show a.length ≤ r.vacant by omega) hi
          fun k hk => hnew k (by omega)]
        apply (r.offer xs).getElem?_fill_old (by omega) (by rw [capacity_offer]; exact hi)
        intro j hj
        rw [hfill, capacity_offer, Nat.mod_add_mod, Nat.add_assoc]
        exact hnew _ (by omega)
    · rw [List.getElem?_eq_none, List.getElem?_eq_none]
      · rw [r.length_fill (by rw [List.length_append]; omega)]
        omega
      · rw [(r.offer xs).length_fill (by omega), capacity_offer]
        omega
  · rfl
  · change ((r.fillIndex + a.length) % r.capacity + b.length) % (r.offer xs).capacity =
      (r.fillIndex + (r.accepted (xs ++ ys)).length) % r.capacity
    rw [capacity_offer, hacc, List.length_append, Nat.mod_add_mod, Nat.add_assoc]

end RingBuffer
