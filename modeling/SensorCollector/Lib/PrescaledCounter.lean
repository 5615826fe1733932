import Mathlib.Data.Nat.Notation
import Mathlib.Tactic.Common

set_option relaxedAutoImplicit false
set_option autoImplicit false

/-!
# Prescaled counters

A counter of ticks wraps at `M`. A program divides what it reads by `k`, to get a time in a coarser
unit, and takes the difference of two such times in a word that wraps at `N`.

The difference of two values of the counter itself would be right across the wrap of the counter.
The difference of two quotients is not: the quotients wrap at about `M / k`, and the word at `N`.

## Main definitions

* `PrescaledCounter.reading` — the time that is read.
* `PrescaledCounter.elapsed` — the difference of two times.
* `PrescaledCounter.TimesOut` — a test of the difference is neither early nor late.

## Main results

* `PrescaledCounter.elapsed_of_add_lt` — the difference if the counter does not wrap.
* `PrescaledCounter.elapsed_of_wrap`, `PrescaledCounter.elapsed_of_wrap_same` — what it is if the
  counter wraps once.
* `PrescaledCounter.timesOut_iff` — when the test is neither early nor late.
-/

namespace PrescaledCounter

/-- The time read after `t` ticks, from a counter that wraps at `M`, in units of `k` ticks. -/
def reading (M k t : ℕ) : ℕ := t % M / k

/-- The difference of the times read after `s` and after `t` ticks, in a word that wraps at `N`. -/
def elapsed (M k N s t : ℕ) : ℕ := (N - reading M k s + reading M k t) % N

/-- The test that more than `period` units have passed since the tick `s`, made `d` ticks later: it
only succeeds after more than `period` units, and it does so once `late` ticks have passed. -/
structure TimesOut (M k N period late s d : ℕ) : Prop where
  notEarly : period < elapsed M k N s (s + d) → period * k < d
  notLate : late ≤ d → period < elapsed M k N s (s + d)

variable {M k N s d : ℕ}

/-- Without a wrap between two samples the counter has advanced by the ticks that have passed. -/
theorem mod_of_add_lt (h : s % M + d < M) : (s + d) % M = s % M + d := by
  rw [Nat.add_mod, Nat.mod_eq_of_lt (show d < M by omega), Nat.mod_eq_of_lt h]

/-- With one wrap between two samples the counter is behind by what is missing to a full turn. -/
theorem mod_of_wrap (hd : d < M) (h : M ≤ s % M + d) : (s + d) % M = s % M + d - M := by
  have hs : s % M < M := Nat.mod_lt s (by omega)
  rw [Nat.add_mod, Nat.mod_eq_of_lt hd, Nat.mod_eq_sub_mod h, Nat.mod_eq_of_lt (by omega)]

/-- The times that are read fit a word that has room for a full turn of the counter. -/
theorem reading_lt (hN : M / k < N) (hM : 0 < M) (t : ℕ) : reading M k t < N := by
  have hle : t % M / k ≤ M / k := Nat.div_le_div_right (Nat.le_of_lt (Nat.mod_lt t hM))
  rw [reading]
  omega

section Readings

variable (hk : 0 < k) (hN : M / k < N)

include hk hN

/-- **Without a wrap** the difference is that of the two times: the ticks that have passed, rounded
down or up to whole units. -/
theorem elapsed_of_add_lt (h : s % M + d < M) :
    k * elapsed M k N s (s + d) < d + k ∧ d < k * (elapsed M k N s (s + d) + 1) := by
  have hs := reading_lt hN (show 0 < M by omega) s
  have ht := reading_lt hN (show 0 < M by omega) (s + d)
  have hread : reading M k (s + d) = (s % M + d) / k := by rw [reading, mod_of_add_lt h]
  have hmono : reading M k s ≤ reading M k (s + d) := by
    rw [hread]
    exact Nat.div_le_div_right (Nat.le_add_right _ d)
  have hdiff : elapsed M k N s (s + d) = reading M k (s + d) - reading M k s := by
    rw [elapsed, show N - reading M k s + reading M k (s + d) =
      reading M k (s + d) - reading M k s + N by omega, Nat.add_mod_right,
      Nat.mod_eq_of_lt (by omega)]
  have hs' : k * reading M k s + s % M % k = s % M := Nat.div_add_mod (s % M) k
  have ht' : k * reading M k (s + d) + (s % M + d) % k = s % M + d := by
    rw [hread]
    exact Nat.div_add_mod (s % M + d) k
  have hsk : s % M % k < k := Nat.mod_lt _ hk
  have htk : (s % M + d) % k < k := Nat.mod_lt _ hk
  rw [hdiff, Nat.mul_add, Nat.mul_sub]
  have := Nat.mul_le_mul_left k hmono
  omega

/-- **With a wrap** to an earlier unit the difference is close to a full turn of the word. -/
theorem elapsed_of_wrap (hd : d < M) (h : M ≤ s % M + d) (hunit : d + s % M % k < M) :
    N - M / k ≤ elapsed M k N s (s + d) := by
  have hM : 0 < M := by omega
  have hs := reading_lt hN hM s
  have hle : reading M k s ≤ M / k := Nat.div_le_div_right (Nat.le_of_lt (Nat.mod_lt s hM))
  have hlt : reading M k (s + d) < reading M k s := by
    rw [reading, reading, mod_of_wrap hd h, Nat.div_lt_iff_lt_mul hk]
    have hdiv := Nat.div_add_mod (s % M) k
    rw [Nat.mul_comm]
    omega
  rw [elapsed, Nat.mod_eq_of_lt (by omega)]
  omega

/-- With a wrap to the same unit the difference is zero. -/
theorem elapsed_of_wrap_same (hd : d < M) (h : M ≤ s % M + d) (hunit : M ≤ d + s % M % k) :
    elapsed M k N s (s + d) = 0 := by
  have hM : 0 < M := by omega
  have hs := reading_lt hN hM s
  have hsame : reading M k (s + d) = reading M k s := by
    rw [reading, reading, mod_of_wrap hd h]
    have hdiv := Nat.div_add_mod (s % M) k
    have hmod : s % M % k < k := Nat.mod_lt _ hk
    refine Nat.div_eq_of_lt_le ?_ ?_
    · rw [Nat.mul_comm]
      omega
    · rw [Nat.add_mul, Nat.mul_comm]
      omega
  rw [elapsed, hsame, Nat.sub_add_cancel (Nat.le_of_lt hs), Nat.mod_self]

/-- **When the test of a period is right.** Let the period be short against the room that the times
leave in the word, and let the test be late after at least one unit more, but not close to a full
turn of the counter. Then it is neither early nor late exactly if the counter has not wrapped, or
the period has passed and the counter has not come back to the unit it started in.

**Proof sketch.** Without a wrap by `elapsed_of_add_lt`. After a wrap the test succeeds, or it
finds no difference at all and is late. -/
theorem timesOut_iff {period late : ℕ} (hperiod : period + M / k < N)
    (hlate : (period + 1) * k ≤ late) (hlate' : late + k ≤ M) (hd : d < M) :
    TimesOut M k N period late s d ↔
      s % M + d < M ∨ (period * k < d ∧ d + s % M % k < M) := by
  rw [Nat.add_mul, Nat.one_mul] at hlate
  by_cases hwrap : s % M + d < M
  · obtain ⟨hup, hdown⟩ := elapsed_of_add_lt hk hN hwrap
    refine iff_of_true ⟨fun hdue => ?_, fun hd => ?_⟩ (Or.inl hwrap)
    · have hle := Nat.mul_le_mul_left k (show period + 1 ≤ _ from hdue)
      rw [Nat.mul_add, Nat.mul_comm k period] at hle
      omega
    · by_contra hnot
      have hle := Nat.mul_le_mul_left k (show elapsed M k N s (s + d) + 1 ≤ period + 1 by omega)
      rw [Nat.mul_add k period, Nat.mul_comm k period] at hle
      omega
  · by_cases hunit : d + s % M % k < M
    · have hdue := elapsed_of_wrap hk hN hd (by omega) hunit
      constructor
      · exact fun h => Or.inr ⟨h.notEarly (by omega), hunit⟩
      · rintro (h | ⟨hpassed, -⟩)
        · exact absurd h hwrap
        · exact ⟨fun _ => hpassed, fun _ => by omega⟩
    · have hzero : elapsed M k N s (s + d) = 0 :=
        elapsed_of_wrap_same hk hN hd (by omega) (by omega)
      have hmod : s % M % k < k := Nat.mod_lt _ hk
      refine iff_of_false (fun h => ?_) (by omega)
      have := h.notLate (by omega)
      omega

end Readings

end PrescaledCounter
