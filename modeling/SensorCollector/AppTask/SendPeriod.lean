import SensorCollector.AppTask.Defs
import SensorCollector.Lib.PrescaledCounter

set_option relaxedAutoImplicit false
set_option autoImplicit false

/-!
# The send period

`Clock_getTicks` counts ticks of ten microseconds in 32 bits. The loop divides it to milliseconds
before it takes a difference, and only a difference of ticks would be right across the wrap of the
counter. So the period of five seconds is kept up to the wrap, which comes after about twelve hours.

## Main definitions

* `SensorCollector.SendPeriodKept` — the test of the loop is neither early nor late.

## Main results

* `SensorCollector.sendDue_iff_elapsed` — the test, as one of a prescaled counter.
* `SensorCollector.sendPeriodKept_iff` — when the test is neither early nor late.
-/

namespace SensorCollector

/-- The test of the loop, for a message at the tick `t` and `d` ticks later: it only succeeds after
more than 5000 ms, and it does so once 5002 ms have passed. A millisecond is 100 ticks. -/
structure SendPeriodKept (t : UInt32) (d : ℕ) : Prop where
  notEarly : SendDue (getCurrentTime (t + UInt32.ofNat d)) (getCurrentTime t) → 500000 < d
  notLate : 500200 ≤ d → SendDue (getCurrentTime (t + UInt32.ofNat d)) (getCurrentTime t)

/-- The time that is read is that of a counter of 32 bits in units of 100 ticks. -/
theorem toNat_getCurrentTime (t : UInt32) :
    (getCurrentTime t).toNat = PrescaledCounter.reading UInt32.size 100 t.toNat := by
  have hunit : 1000 / clockTickPeriod = 100 := by decide
  rw [getCurrentTime, hunit, UInt32.toNat_div, PrescaledCounter.reading,
    Nat.mod_eq_of_lt t.toNat_lt_size]
  rfl

/-- The time that is read some ticks later. -/
theorem toNat_getCurrentTime_add (t : UInt32) (d : ℕ) :
    (getCurrentTime (t + UInt32.ofNat d)).toNat =
      PrescaledCounter.reading UInt32.size 100 (t.toNat + d) := by
  rw [toNat_getCurrentTime, PrescaledCounter.reading, PrescaledCounter.reading, UInt32.toNat_add,
    UInt32.toNat_ofNat']
  have hsize : UInt32.size = 2 ^ 32 := rfl
  rw [hsize, Nat.mod_mod, Nat.add_mod_mod]

/-- **The test of the loop** compares the difference of two times of the prescaled counter. -/
theorem sendDue_iff_elapsed (t : UInt32) (d : ℕ) :
    SendDue (getCurrentTime (t + UInt32.ofNat d)) (getCurrentTime t) ↔
      5000 < PrescaledCounter.elapsed UInt32.size 100 UInt32.size t.toNat (t.toNat + d) := by
  rw [SendDue, gt_iff_lt, UInt32.lt_iff_toNat_lt, UInt32.toNat_sub, toNat_getCurrentTime,
    toNat_getCurrentTime_add]
  rfl

/-- The send period is kept if the test of the prescaled counter times out. -/
theorem sendPeriodKept_iff_timesOut (t : UInt32) (d : ℕ) :
    SendPeriodKept t d ↔
      PrescaledCounter.TimesOut UInt32.size 100 UInt32.size 5000 500200 t.toNat d := by
  have hdue := sendDue_iff_elapsed t d
  exact ⟨fun h => ⟨fun he => h.notEarly (hdue.mpr he), fun hd => hdue.mp (h.notLate hd)⟩,
    fun h => ⟨fun he => h.notEarly (hdue.mp he), fun hd => hdue.mpr (h.notLate hd)⟩⟩

/-- **When the send period is kept.** For a message at any tick and a test less than a full turn of
the counter later, the test is neither early nor late if and only if the counter has not wrapped in
between, or the period has passed and the counter has not come back to the millisecond of the
message.

**Proof sketch.** This is the period of a prescaled counter (`PrescaledCounter.timesOut_iff`), which
needs room in the word for the period and for a full turn. -/
theorem sendPeriodKept_iff (t : UInt32) {d : ℕ} (hd : d < UInt32.size) :
    SendPeriodKept t d ↔
      t.toNat + d < UInt32.size ∨ (500000 < d ∧ d + t.toNat % 100 < UInt32.size) := by
  have ht : t.toNat % UInt32.size = t.toNat := Nat.mod_eq_of_lt t.toNat_lt_size
  have hiff : PrescaledCounter.TimesOut UInt32.size 100 UInt32.size 5000 500200 t.toNat d ↔
      t.toNat % UInt32.size + d < UInt32.size ∨
        (5000 * 100 < d ∧ d + t.toNat % UInt32.size % 100 < UInt32.size) :=
    PrescaledCounter.timesOut_iff (by decide) (by decide) (by decide) (by decide) (by decide) hd
  rw [ht] at hiff
  exact (sendPeriodKept_iff_timesOut t d).trans hiff

/-- A message at the start of the counter, tested 5002 ms later. -/
theorem sendPeriodKept_iff_at_start :
    SendPeriodKept 0 500200 ↔
      (0 : UInt32).toNat + 500200 < UInt32.size ∨
        (500000 < 500200 ∧ 500200 + (0 : UInt32).toNat % 100 < UInt32.size) :=
  sendPeriodKept_iff 0 (by decide)

/-- A message at the last tick before the wrap is followed by another one after a single tick. -/
theorem not_sendPeriodKept_at_wrap : ¬ SendPeriodKept 4294967295 1 := by
  intro h
  have hearly : 500000 < 1 := h.notEarly (by decide)
  omega

end SensorCollector
