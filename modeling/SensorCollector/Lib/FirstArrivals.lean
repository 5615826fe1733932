import Mathlib.Data.Finset.Card
import Mathlib.Data.List.Induction

set_option relaxedAutoImplicit false
set_option autoImplicit false

/-!
# First arrivals

The elements of a list whose key has not occurred before them, in the order of the list. This is
the content of a register that admits every key once, when it first arrives.

## Main definitions

* `List.firstArrivals` — the first element of each key, in order of arrival.

## Main results

* `List.firstArrivals_concat` — what one more arrival adds.
* `List.nodup_map_firstArrivals`, `List.mem_map_firstArrivals` — every key occurs exactly once.
* `List.length_firstArrivals` — there are as many first arrivals as keys.
* `List.find?_eq_of_mem_firstArrivals` — a first arrival is the first element with its key.
-/

namespace List

variable {α κ : Type*} [DecidableEq κ] (key : α → κ)

/-- The elements whose key has not occurred before them, in order. -/
def firstArrivals (xs : List α) : List α :=
  xs.foldl (fun seen x => if key x ∈ seen.map key then seen else seen ++ [x]) []

/-- Nothing has arrived yet. -/
@[simp] theorem firstArrivals_nil : firstArrivals key ([] : List α) = [] := rfl

/-- One more arrival is a first arrival if its key is new. -/
theorem firstArrivals_concat (xs : List α) (x : α) :
    firstArrivals key (xs ++ [x]) =
      if key x ∈ (firstArrivals key xs).map key then firstArrivals key xs
      else firstArrivals key xs ++ [x] := by
  rw [firstArrivals, List.foldl_append]
  rfl

/-- An arrival whose key has occurred adds nothing. -/
theorem firstArrivals_concat_of_mem {xs : List α} {x : α}
    (h : key x ∈ (firstArrivals key xs).map key) :
    firstArrivals key (xs ++ [x]) = firstArrivals key xs := by
  rw [firstArrivals_concat, if_pos h]

/-- An arrival with a new key is added at the end. -/
theorem firstArrivals_concat_of_not_mem {xs : List α} {x : α}
    (h : key x ∉ (firstArrivals key xs).map key) :
    firstArrivals key (xs ++ [x]) = firstArrivals key xs ++ [x] := by
  rw [firstArrivals_concat, if_neg h]

/-- The keys of the first arrivals are the keys of the list. -/
theorem mem_map_firstArrivals {xs : List α} {k : κ} :
    k ∈ (firstArrivals key xs).map key ↔ k ∈ xs.map key := by
  induction xs using List.reverseRecOn with
  | nil => rfl
  | append_singleton xs x ih =>
    rw [firstArrivals_concat, List.map_append, List.mem_append, ← ih]
    split_ifs with hx
    · constructor
      · exact Or.inl
      · rintro (hk | hk)
        · exact hk
        · obtain rfl : k = key x := by simpa using hk
          exact hx
    · rw [List.map_append, List.mem_append]

/-- No two first arrivals have the same key. -/
theorem nodup_map_firstArrivals (xs : List α) : ((firstArrivals key xs).map key).Nodup := by
  induction xs using List.reverseRecOn with
  | nil => exact List.nodup_nil
  | append_singleton xs x ih =>
    rw [firstArrivals_concat]
    split_ifs with hx
    · exact ih
    · rw [List.map_append, List.map_singleton, ← List.concat_eq_append]
      exact ih.concat hx

/-- There are as many first arrivals as different keys. -/
theorem length_firstArrivals (xs : List α) :
    (firstArrivals key xs).length = (xs.map key).toFinset.card := by
  have hset : (xs.map key).toFinset = ((firstArrivals key xs).map key).toFinset := by
    ext k
    rw [List.mem_toFinset, List.mem_toFinset, mem_map_firstArrivals]
  rw [hset, List.toFinset_card_of_nodup (nodup_map_firstArrivals key xs), List.length_map]

/-- A first arrival is the first element of the list that has its key. -/
theorem find?_eq_of_mem_firstArrivals {xs : List α} {x : α} (h : x ∈ firstArrivals key xs) :
    xs.find? (fun y => decide (key y = key x)) = some x := by
  induction xs using List.reverseRecOn with
  | nil => simp at h
  | append_singleton xs y ih =>
    rw [firstArrivals_concat] at h
    rw [List.find?_append]
    split_ifs at h with hy
    · rw [ih h, Option.some_or]
    · rcases List.mem_append.mp h with hx | hx
      · rw [ih hx, Option.some_or]
      · obtain rfl : x = y := by simpa using hx
        have hnone : xs.find? (fun z => decide (key z = key x)) = none := by
          rw [mem_map_firstArrivals] at hy
          refine List.find?_eq_none.mpr fun z hz hzx => hy ?_
          rw [← of_decide_eq_true hzx]
          exact List.mem_map_of_mem hz
        rw [hnone, Option.none_or]
        simp

/-- The first arrivals stand in the order of the list. -/
theorem firstArrivals_sublist (xs : List α) : (firstArrivals key xs).Sublist xs := by
  induction xs using List.reverseRecOn with
  | nil => exact List.Sublist.refl _
  | append_singleton xs x ih =>
    rw [firstArrivals_concat]
    split_ifs with hx
    · exact ih.trans (List.sublist_append_left xs [x])
    · exact ih.append_right [x]

end List
