import SensorCollector.CTypes

set_option relaxedAutoImplicit false
set_option autoImplicit false

/-!
# The byte buffer

The buffer of `utils/buffer_c`: a block of memory used as a ring, with a bulk and a bytewise
form of reading and writing. Each function is transcribed with the conversions its C types
imply. A function returns `none` where it would access memory outside a block.

## Main definitions

* `SensorCollector.BufferT` — the structure `buffer_t`, with the block it points to.
* `SensorCollector.bufferInit`, `SensorCollector.bufferFlush`, `SensorCollector.bufferPeek`,
  `SensorCollector.bufferGetSize`.
* `SensorCollector.bufferRead`, `SensorCollector.bufferReadMultiple`.
* `SensorCollector.bufferWrite`, `SensorCollector.bufferWriteMultiple`.
-/

namespace SensorCollector

/-- The structure `buffer_t`. The pointer member is kept as the address `base` of the block and
the contents `buffer` of the block. -/
structure BufferT where
  /-- The address of the block. -/
  base : ℕ
  /-- The bytes of the block. -/
  buffer : List UInt8
  /-- Head of the array: start reading from here. -/
  readIndex : ℕ
  /-- Next available byte to write to. -/
  fillIndex : ℕ
  /-- The size of the block. -/
  capacity : ℕ
  deriving DecidableEq, Repr

/-- A 32-bit word in memory, least significant byte first. -/
def wordBytes (n : ℕ) : List UInt8 :=
  [UInt8.ofNat n, UInt8.ofNat (n / 256), UInt8.ofNat (n / 65536), UInt8.ofNat (n / 16777216)]

/-- The bytes of the structure itself, as opposed to those of the block it points to. -/
def BufferT.objectBytes (buf : BufferT) : List UInt8 :=
  wordBytes buf.base ++ wordBytes buf.readIndex ++ wordBytes buf.fillIndex ++
    wordBytes buf.capacity

/-- `buffer_init`, given what `malloc(capacity)` returned: the address and the indeterminate
contents of a block, or nothing. The first test of the source cannot succeed for the address of
a buffer. -/
def bufferInit (block : Option (ℕ × List UInt8)) (buf : BufferT) (capacity : ℕ) :
    Bool × BufferT :=
  match block with
  | none => (false, { buf with base := 0, buffer := [] })
  | some (base, bytes) =>
    (true, { base := base, buffer := bytes, readIndex := 0, fillIndex := 0, capacity := capacity })

/-- `buffer_flush`: zero the block and reset both indices. -/
def bufferFlush (buf : BufferT) : Option BufferT :=
  (memset buf.buffer 0 buf.capacity).map fun bytes =>
    { buf with buffer := bytes, readIndex := 0, fillIndex := 0 }

/-- `buffer_peek`: the byte at the read index. -/
def bufferPeek (buf : BufferT) : Option UInt8 := buf.buffer[buf.readIndex]?

/-- `buffer_get_size`: the number of stored bytes. The difference of the two indices is taken in
`size_t` and read as an `int`. -/
def bufferGetSize (buf : BufferT) : ℕ :=
  let totalBytes := int32 (sizeT (buf.fillIndex - buf.readIndex))
  let totalBytes := if totalBytes < 0 then int32 (sizeT (totalBytes + buf.capacity)) else totalBytes
  sizeT totalBytes

/-- `buffer_read`: the next byte, or `-1`. In the new read index `%` binds tighter than `+`. -/
def bufferRead (srcBuf : BufferT) : Option (ℤ × BufferT) :=
  if bufferGetSize srcBuf = 0 then some (-1, srcBuf)
  else
    (srcBuf.buffer[srcBuf.readIndex]?).map fun readByte =>
      ((readByte.toNat : ℤ),
        { srcBuf with readIndex := sizeT (srcBuf.readIndex + 1 % srcBuf.capacity) })

/-- `buffer_read_multiple`: the number of bytes read, the destination array and the buffer
afterwards. The number of stored bytes is kept in a `uint8_t`. The test that the data does not
wrap compares a `size_t`, so it only fails for equal indices, and the second copy of the wrapped
branch reads the structure and not the block. -/
def bufferReadMultiple (destBuf : List UInt8) (srcBuf : BufferT) (rSize : ℕ) :
    Option (ℕ × List UInt8 × BufferT) :=
  let available := uint8 (bufferGetSize srcBuf)
  if available = 0 ∨ rSize = 0 then some (0, destBuf, srcBuf)
  else
    let rSize := if rSize > available then available else rSize
    if sizeT (srcBuf.fillIndex - srcBuf.readIndex) > 0 then
      let filledBytes := int32 (sizeT (srcBuf.fillIndex - srcBuf.readIndex))
      let rSize := if rSize > sizeT filledBytes then sizeT filledBytes else rSize
      (memcpy destBuf 0 srcBuf.buffer srcBuf.readIndex rSize).map fun dest =>
        (uint8 rSize, dest,
          { srcBuf with readIndex := sizeT (srcBuf.readIndex + rSize) % srcBuf.capacity })
    else
      let bytesEnd := int32 (sizeT (srcBuf.capacity - srcBuf.readIndex))
      (memcpy destBuf 0 srcBuf.buffer srcBuf.readIndex (sizeT bytesEnd)).bind fun dest =>
        let remBytes := int32 (sizeT (rSize - bytesEnd))
        (memcpy dest (sizeT bytesEnd) srcBuf.objectBytes 0 (sizeT remBytes)).map fun dest =>
          (uint8 rSize, dest, { srcBuf with readIndex := sizeT remBytes })

/-- `buffer_write`: the number of bytes written, and the buffer afterwards. -/
def bufferWrite (destBuf : BufferT) (writeByte : UInt8) : Option (ℕ × BufferT) :=
  let available := bufferGetSize destBuf
  let vacant := int32 (sizeT (destBuf.capacity - available - 1))
  if vacant ≤ 0 then some (0, destBuf)
  else
    (memcpy destBuf.buffer destBuf.fillIndex [writeByte] 0 1).map fun bytes =>
      (1, { destBuf with
        buffer := bytes, fillIndex := sizeT (destBuf.fillIndex + 1) % destBuf.capacity })

/-- `buffer_write_multiple`: the number of bytes written, and the buffer afterwards. -/
def bufferWriteMultiple (destBuf : BufferT) (srcArr : List UInt8) (wSize : ℕ) :
    Option (ℕ × BufferT) :=
  let available := bufferGetSize destBuf
  let vacant := int32 (sizeT (destBuf.capacity - available - 1))
  if wSize = 0 ∨ vacant = 0 then some (0, destBuf)
  else
    let wSize := if wSize > sizeT vacant then sizeT vacant else wSize
    let vacantEnd :=
      if destBuf.readIndex > destBuf.fillIndex then
        int32 (sizeT (destBuf.readIndex - destBuf.fillIndex - 1))
      else int32 (sizeT (destBuf.capacity - destBuf.fillIndex))
    if wSize ≤ sizeT vacantEnd then
      (memcpy destBuf.buffer destBuf.fillIndex srcArr 0 wSize).map fun bytes =>
        (wSize, { destBuf with
          buffer := bytes, fillIndex := sizeT (destBuf.fillIndex + wSize) % destBuf.capacity })
    else
      -- the last and the first chunk are copied one after the other
      (memcpy destBuf.buffer destBuf.fillIndex srcArr 0 (sizeT vacantEnd)).bind fun bytes =>
        let bytesRem := int32 (sizeT (wSize - vacantEnd))
        (memcpy bytes 0 srcArr (sizeT vacantEnd) (sizeT bytesRem)).map fun bytes =>
          (wSize, { destBuf with buffer := bytes, fillIndex := sizeT bytesRem })

end SensorCollector
