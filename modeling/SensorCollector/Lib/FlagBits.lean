import Mathlib.Data.Nat.Notation
import Mathlib.Tactic.Common

set_option relaxedAutoImplicit false
set_option autoImplicit false

/-!
# Sets of flags in a machine word

A word of `w` bits used as a set of flags, flag `i` being the mask `1 << i`. The three idioms
`r & mask`, `r |= mask` and `r &= ~mask` are membership, insertion and removal, and a plain
assignment `r = mask` is the singleton.

## Main definitions

* `FlagBits.bit` — the mask of one flag.
* `FlagBits.IsSet` — the test `r & mask` of one flag.

## Main results

* `FlagBits.isSet_or_bit`, `FlagBits.isSet_and_not_bit`, `FlagBits.isSet_bit` — membership after
  an insertion, after a removal and in a singleton.
-/

namespace FlagBits

variable {w : ℕ}

/-- The mask of flag `i`. -/
def bit (w i : ℕ) : BitVec w := 1#w <<< i

/-- Flag `i` is set in the word `r`: the test `r & (1 << i)` of a condition. -/
def IsSet (r : BitVec w) (i : ℕ) : Prop := r &&& bit w i ≠ 0#w

instance (r : BitVec w) (i : ℕ) : Decidable (IsSet r i) :=
  inferInstanceAs (Decidable (_ ≠ _))

/-- The mask of flag `i` has exactly bit `i`. -/
theorem getLsbD_bit {i : ℕ} (hi : i < w) (j : ℕ) : (bit w i).getLsbD j = decide (j = i) := by
  simp only [bit, BitVec.getLsbD_shiftLeft, BitVec.getLsbD_one]
  by_cases h : j = i
  · simp [h, hi]
    omega
  · simp [h]
    omega

/-- The test of flag `i` reads bit `i` of the word. -/
theorem isSet_iff_getLsbD {r : BitVec w} {i : ℕ} (hi : i < w) :
    IsSet r i ↔ r.getLsbD i = true := by
  unfold IsSet
  constructor
  · intro h
    by_contra hr
    apply h
    apply BitVec.eq_of_getLsbD_eq
    intro j _
    rw [BitVec.getLsbD_and, getLsbD_bit hi, BitVec.getLsbD_zero]
    by_cases hj : j = i
    · subst hj; simpa using hr
    · simp [hj]
  · intro h h0
    have hb := congrArg (fun x => BitVec.getLsbD x i) h0
    simp [getLsbD_bit hi, h] at hb

/-- After `r |= 1 << j` flag `j` is set, and the other flags are as before. -/
theorem isSet_or_bit {r : BitVec w} {i j : ℕ} (hi : i < w) (hj : j < w) :
    IsSet (r ||| bit w j) i ↔ IsSet r i ∨ i = j := by
  rw [isSet_iff_getLsbD hi, isSet_iff_getLsbD hi, BitVec.getLsbD_or, getLsbD_bit hj]
  simp

/-- After `r &= ~(1 << j)` flag `j` is not set, and the other flags are as before. -/
theorem isSet_and_not_bit {r : BitVec w} {i j : ℕ} (hi : i < w) (hj : j < w) :
    IsSet (r &&& ~~~ bit w j) i ↔ IsSet r i ∧ i ≠ j := by
  rw [isSet_iff_getLsbD hi, isSet_iff_getLsbD hi, BitVec.getLsbD_and, BitVec.getLsbD_not,
    getLsbD_bit hj]
  simp [hi]

/-- After the assignment `r = 1 << j` flag `j` is the only one set. -/
theorem isSet_bit {i j : ℕ} (hi : i < w) (hj : j < w) : IsSet (bit w j) i ↔ i = j := by
  rw [isSet_iff_getLsbD hi, getLsbD_bit hj]
  simp

/-- A flag that is not set is not cleared. -/
theorem and_not_bit_of_not_isSet {r : BitVec w} {i : ℕ} (hi : i < w) (h : ¬ IsSet r i) :
    r &&& ~~~ bit w i = r := by
  apply BitVec.eq_of_getLsbD_eq
  intro j hj
  rw [isSet_iff_getLsbD hi, Bool.not_eq_true] at h
  rw [BitVec.getLsbD_and, BitVec.getLsbD_not, getLsbD_bit hi]
  by_cases hji : j = i
  · subst hji
    simp [h]
  · simp [hj, hji]

/-- A word in which no flag is set is zero. -/
theorem eq_zero_of_not_isSet {r : BitVec w} (h : ∀ i < w, ¬ IsSet r i) : r = 0#w := by
  apply BitVec.eq_of_getLsbD_eq
  intro i hi
  have hr := h i hi
  rw [isSet_iff_getLsbD hi, Bool.not_eq_true] at hr
  rw [hr, BitVec.getLsbD_zero]

end FlagBits
