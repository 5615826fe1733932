import Mathlib.Data.List.Perm.Basic
import Mathlib.Data.List.Nodup
import Mathlib.Logic.Function.Basic

set_option relaxedAutoImplicit false
set_option autoImplicit false

/-!
# Who owns the blocks of a heap

A heap is a partial map from addresses to blocks. It is owned by a list of addresses if each block
that is allocated is in the list, exactly once, and nothing else is. The list says who owns the
blocks: it is the concatenation of what the parts of a program own, so no two of them own the same
block, and no block is forgotten.

## Main definitions

* `Ownership.Owns` — a list of addresses owns a heap.

## Main results

* `Ownership.Owns.perm` — handing over blocks is a permutation of the list.
* `Ownership.Owns.alloc`, `Ownership.Owns.write`, `Ownership.Owns.free` — the operations on blocks.
-/

namespace Ownership

variable {α β : Type*} {heap heap' : α → Option β} {owned owned' : List α}

/-- The blocks that are allocated are those of the list, which has no block twice. -/
structure Owns (heap : α → Option β) (owned : List α) : Prop where
  nodup : owned.Nodup
  isSome_iff : ∀ a, (heap a).isSome = true ↔ a ∈ owned

namespace Owns

/-- **Handing over**: the order of the list does not matter. -/
theorem perm (h : Owns heap owned) (hperm : owned.Perm owned') : Owns heap owned' :=
  ⟨hperm.nodup_iff.mp h.nodup, fun a => (h.isSome_iff a).trans hperm.mem_iff⟩

/-- A change of the contents of blocks changes no owner. -/
theorem congr (h : Owns heap owned) (hsome : ∀ a, (heap' a).isSome = (heap a).isSome) :
    Owns heap' owned :=
  ⟨h.nodup, fun a => by rw [hsome, h.isSome_iff]⟩

/-- A block that is owned is allocated. -/
theorem exists_of_mem (h : Owns heap owned) {a : α} (hmem : a ∈ owned) : ∃ b, heap a = some b :=
  Option.isSome_iff_exists.mp ((h.isSome_iff a).mpr hmem)

/-- A block that is not allocated is not owned. -/
theorem not_mem (h : Owns heap owned) {a : α} (hnone : heap a = none) : a ∉ owned := by
  intro hmem
  have hsome := (h.isSome_iff a).mpr hmem
  rw [hnone] at hsome
  cases hsome

variable [DecidableEq α]

/-- **Allocation**: a new block has a new owner. -/
theorem alloc (h : Owns heap owned) {a : α} (hnone : heap a = none) (b : β) :
    Owns (Function.update heap a (some b)) (a :: owned) := by
  refine ⟨List.nodup_cons.mpr ⟨h.not_mem hnone, h.nodup⟩, fun c => ?_⟩
  by_cases hc : c = a
  · subst hc
    simp
  · rw [Function.update_of_ne hc, h.isSome_iff, List.mem_cons]
    exact (or_iff_right hc).symm

/-- **Writing** to a block that is owned. -/
theorem write (h : Owns heap owned) {a : α} (hmem : a ∈ owned) (b : β) :
    Owns (Function.update heap a (some b)) owned := by
  refine h.congr fun c => ?_
  by_cases hc : c = a
  · subst hc
    rw [Function.update_self, (h.isSome_iff c).mpr hmem]
    rfl
  · rw [Function.update_of_ne hc]

/-- **Freeing** a block takes it from its owner. -/
theorem free {a : α} (h : Owns heap (a :: owned)) :
    Owns (Function.update heap a none) owned := by
  have hnodup := List.nodup_cons.mp h.nodup
  refine ⟨hnodup.2, fun c => ?_⟩
  by_cases hc : c = a
  · subst hc
    simp [hnodup.1]
  · rw [Function.update_of_ne hc, h.isSome_iff, List.mem_cons]
    exact or_iff_right hc

end Owns

end Ownership
