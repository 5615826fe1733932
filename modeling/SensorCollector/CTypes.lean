import SensorCollector.Lib.RingBuffer

set_option relaxedAutoImplicit false
set_option autoImplicit false

/-!
# C integers and memory

The conversions between the integer types the buffer code mixes, on the 32-bit target, and the
two library functions it moves bytes with. An access outside a block of memory is undefined in C;
here it gives `none`.

## Main definitions

* `SensorCollector.sizeT`, `SensorCollector.int32`, `SensorCollector.uint8` — conversion to
  `size_t`, `int` and `uint8_t`.
* `SensorCollector.memcpy`, `SensorCollector.memset` — copying and filling inside given blocks.
-/

namespace SensorCollector

/-- Conversion to `size_t`, 32 bits without sign on the target. -/
def sizeT (z : ℤ) : ℕ := (z % 4294967296).toNat

/-- Conversion to `int`, 32 bits in two's complement on the target. -/
def int32 (z : ℤ) : ℤ :=
  if z % 4294967296 < 2147483648 then z % 4294967296 else z % 4294967296 - 4294967296

/-- Conversion to `uint8_t`. -/
def uint8 (n : ℕ) : ℕ := n % 256

/-- Conversion of an `int` to `uint8_t`. -/
def uint8OfInt (z : ℤ) : ℕ := (z % 256).toNat

/-- A number that fits is kept by the conversion to `size_t`. -/
theorem sizeT_natCast {n : ℕ} (h : n < 4294967296) : sizeT n = n := by
  unfold sizeT
  omega

/-- An integer that equals a number that fits is converted to it. -/
theorem sizeT_of_eq {z : ℤ} {n : ℕ} (hz : z = n) (h : n < 4294967296) : sizeT z = n := by
  rw [hz, sizeT_natCast h]

/-- A number in the range of `int` survives the way through `size_t`. -/
theorem int32_sizeT {z : ℤ} (hlo : -2147483648 ≤ z) (hhi : z < 2147483648) :
    int32 (sizeT z) = z := by
  unfold int32 sizeT
  split_ifs <;> omega

/-- `memcpy(&dst[dstOff], &src[srcOff], len)`, undefined unless both segments lie inside their
blocks. -/
def memcpy (dst : List UInt8) (dstOff : ℕ) (src : List UInt8) (srcOff len : ℕ) :
    Option (List UInt8) :=
  if dstOff + len ≤ dst.length ∧ srcOff + len ≤ src.length then
    some (dst.blit dstOff ((src.drop srcOff).take len))
  else none

/-- `memset(dst, value, len)`, undefined unless the segment lies inside the block. -/
def memset (dst : List UInt8) (value : UInt8) (len : ℕ) : Option (List UInt8) :=
  if len ≤ dst.length then some (dst.blit 0 (List.replicate len value)) else none

/-- Copying inside both blocks is defined. -/
theorem memcpy_eq_some {dst src : List UInt8} {dstOff srcOff len : ℕ}
    (hd : dstOff + len ≤ dst.length) (hs : srcOff + len ≤ src.length) :
    memcpy dst dstOff src srcOff len = some (dst.blit dstOff ((src.drop srcOff).take len)) :=
  if_pos ⟨hd, hs⟩

/-- Copying from beyond the end of the source block is undefined. -/
theorem memcpy_eq_none {dst src : List UInt8} {dstOff srcOff len : ℕ}
    (hs : src.length < srcOff + len) : memcpy dst dstOff src srcOff len = none :=
  if_neg (by omega)

/-- Copying to beyond the end of the destination block is undefined. -/
theorem memcpy_eq_none_of_dst {dst src : List UInt8} {dstOff srcOff len : ℕ}
    (hd : dst.length < dstOff + len) : memcpy dst dstOff src srcOff len = none :=
  if_neg (by omega)

end SensorCollector
