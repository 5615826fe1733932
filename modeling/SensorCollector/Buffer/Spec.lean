import SensorCollector.Buffer.Defs

set_option relaxedAutoImplicit false
set_option autoImplicit false

/-!
# The byte buffer as a ring

A buffer whose block has the recorded capacity, below `2³¹`, and whose indices are in range is a
ring of bytes. On such a buffer the conversions between `size_t` and `int` lose nothing, and each
function is an operation of the ring; only the bulk read is undefined where the data it takes
would run over the end of the block.

## Main definitions

* `SensorCollector.BufferT.Wf` — the representation invariant.
* `SensorCollector.BufferT.InRange` — the same without the bound of an `int`.
* `SensorCollector.BufferT.ring`, `SensorCollector.BufferT.withRing` — a buffer as a ring, and a
  buffer with its ring replaced.

## Main results

* `SensorCollector.bufferGetSize_eq` — the number of stored bytes.
* `SensorCollector.bufferFlush_eq` — the flush empties the buffer.
* `SensorCollector.bufferWrite_eq`, `SensorCollector.bufferWriteMultiple_eq` — the two writes append
  what fits.
* `SensorCollector.bufferReadMultiple_eq` — what the bulk read returns, and when it is undefined.
* `SensorCollector.bufferRead_of_nil`, `SensorCollector.bufferRead_of_cons` — the bytewise read,
  which does not wrap the read index.
-/

namespace SensorCollector

namespace BufferT

/-- The representation invariant: the block has the recorded capacity, the capacity fits an
`int`, and the indices are in range. -/
structure Wf (buf : BufferT) : Prop where
  /-- The block has the recorded capacity. -/
  length_eq : buf.buffer.length = buf.capacity
  /-- The capacity fits an `int`. -/
  capacity_lt : buf.capacity < 2147483648
  /-- The read index is in range. -/
  read_lt : buf.readIndex < buf.capacity
  /-- The fill index is in range. -/
  fill_lt : buf.fillIndex < buf.capacity

/-- The weaker invariant without the bound of an `int`: the block has the recorded capacity, which
fits a `size_t`, and the indices are in range. -/
structure InRange (buf : BufferT) : Prop where
  /-- The block has the recorded capacity. -/
  length_eq : buf.buffer.length = buf.capacity
  /-- The capacity fits a `size_t`. -/
  capacity_lt : buf.capacity < 4294967296
  /-- The read index is in range. -/
  read_lt : buf.readIndex < buf.capacity
  /-- The fill index is in range. -/
  fill_lt : buf.fillIndex < buf.capacity

/-- The indices of a well-formed buffer are in range. -/
theorem Wf.inRange {buf : BufferT} (h : buf.Wf) : buf.InRange :=
  ⟨h.length_eq, Nat.lt_trans h.capacity_lt (by decide), h.read_lt, h.fill_lt⟩

/-- A well-formed buffer as a ring of bytes. -/
def ring (buf : BufferT) (h : buf.Wf) : RingBuffer UInt8 where
  cells := buf.buffer
  readIndex := buf.readIndex
  fillIndex := buf.fillIndex
  readIndex_lt := by rw [h.length_eq]; exact h.read_lt
  fillIndex_lt := by rw [h.length_eq]; exact h.fill_lt

/-- The buffer with its block and indices taken from a ring. -/
def withRing (buf : BufferT) (r : RingBuffer UInt8) : BufferT :=
  { buf with buffer := r.cells, readIndex := r.readIndex, fillIndex := r.fillIndex }

variable {buf : BufferT} (h : buf.Wf)

include h

/-- The ring has the recorded capacity. -/
theorem capacity_ring : (buf.ring h).capacity = buf.capacity := h.length_eq

/-- The number of stored bytes, from the indices. -/
theorem size_ring : (buf.ring h).size = if buf.readIndex ≤ buf.fillIndex then
    buf.fillIndex - buf.readIndex else buf.fillIndex + buf.capacity - buf.readIndex := by
  rw [RingBuffer.size, capacity_ring h]
  rfl

/-- Replacing the ring by one of the same capacity keeps the invariant. -/
theorem wf_withRing {r : RingBuffer UInt8} (hr : r.capacity = buf.capacity) :
    (buf.withRing r).Wf where
  length_eq := hr
  capacity_lt := h.capacity_lt
  read_lt := hr ▸ r.readIndex_lt_capacity
  fill_lt := hr ▸ r.fillIndex_lt_capacity

omit h in
/-- The room in one piece behind the fill index: up to the reader, or up to the end of the block. -/
def vacantEnd (buf : BufferT) : ℕ :=
  if buf.readIndex > buf.fillIndex then buf.readIndex - buf.fillIndex - 1
  else buf.capacity - buf.fillIndex

/-- The room in one piece ends at the end of the block at the latest. -/
theorem vacantEnd_le : buf.vacantEnd ≤ buf.capacity - buf.fillIndex := by
  have hr := h.read_lt
  unfold vacantEnd
  split_ifs <;> omega

/-- If there is more room than this, it goes on from the start of the block. -/
theorem vacantEnd_eq_of_lt (hlt : buf.vacantEnd < (buf.ring h).vacant) :
    buf.vacantEnd = buf.capacity - buf.fillIndex := by
  have hr := h.read_lt
  have hsv := (buf.ring h).size_add_vacant
  have hsize := size_ring h
  rw [capacity_ring h] at hsv
  unfold vacantEnd at hlt ⊢
  split_ifs at hlt ⊢ <;> split_ifs at hsize <;> omega

omit h in
/-- The ring of a buffer whose ring has been replaced. -/
@[simp] theorem ring_withRing {r : RingBuffer UInt8} (hr : (buf.withRing r).Wf) :
    (buf.withRing r).ring hr = r := rfl

end BufferT

/-- A buffer is well-formed after its initialisation with an allocated block. -/
theorem wf_bufferInit {base capacity : ℕ} {block : List UInt8} (buf : BufferT)
    (hpos : 0 < capacity) (hlt : capacity < 2147483648) (hlen : block.length = capacity) :
    (bufferInit (some (base, block)) buf capacity).2.Wf :=
  ⟨hlen, hlt, hpos, hpos⟩

/-- A buffer is empty after its initialisation. -/
theorem toList_bufferInit {base capacity : ℕ} {block : List UInt8} (buf : BufferT)
    (h : (bufferInit (some (base, block)) buf capacity).2.Wf) :
    ((bufferInit (some (base, block)) buf capacity).2.ring h).toList = [] := by
  simp [bufferInit, BufferT.ring, RingBuffer.toList, RingBuffer.size]

/-- The stored bytes of a buffer, oldest first: as many as its size, from the read index on and
around the end of the block. -/
def BufferT.storedBytes (buf : BufferT) : List UInt8 :=
  (buf.buffer.rotate buf.readIndex).take (bufferGetSize buf)

variable {buf : BufferT} (h : buf.Wf)

include h

/-- `buffer_get_size` is the number of stored bytes. -/
theorem bufferGetSize_eq : bufferGetSize buf = (buf.ring h).size := by
  have hc := h.capacity_lt
  have hr := h.read_lt
  have hf := h.fill_lt
  have hsize := BufferT.size_ring h
  rw [hsize, bufferGetSize, int32_sizeT (by omega) (by omega)]
  by_cases hw : buf.readIndex ≤ buf.fillIndex
  · simp only [if_pos hw, if_neg (show ¬ (buf.fillIndex : ℤ) - buf.readIndex < 0 by omega)]
    unfold sizeT
    omega
  · simp only [if_neg hw, if_pos (show (buf.fillIndex : ℤ) - buf.readIndex < 0 by omega)]
    rw [int32_sizeT (by omega) (by omega)]
    unfold sizeT
    omega

/-- The number of bytes the writes find vacant. -/
theorem vacant_eq : int32 (sizeT (buf.capacity - bufferGetSize buf - 1)) = (buf.ring h).vacant := by
  have hc := h.capacity_lt
  have hs := (buf.ring h).size_lt_capacity
  have hv := (buf.ring h).size_add_vacant
  rw [BufferT.capacity_ring h] at hs hv
  rw [bufferGetSize_eq h, int32_sizeT (by omega) (by omega)]
  omega

/-- The stored bytes are those of the ring. -/
theorem storedBytes_eq : buf.storedBytes = (buf.ring h).toList := by
  rw [BufferT.storedBytes, bufferGetSize_eq h]
  rfl

/-- The stored bytes of a buffer whose ring has been replaced. -/
theorem storedBytes_withRing {r : RingBuffer UInt8} (hr : r.capacity = buf.capacity) :
    (buf.withRing r).storedBytes = r.toList := by
  rw [storedBytes_eq (BufferT.wf_withRing h hr), BufferT.ring_withRing]

/-- A copy that stops at the end of the block at the latest stores the bytes it takes. -/
theorem copy_one_segment {srcArr xs : List UInt8} {n : ℕ} (hn : n ≤ srcArr.length)
    (hle : n ≤ buf.capacity - buf.fillIndex) (hacc : (buf.ring h).accepted xs = srcArr.take n) :
    ((memcpy buf.buffer buf.fillIndex srcArr 0 n).map fun bytes =>
      (n, { buf with
        buffer := bytes, fillIndex := sizeT (buf.fillIndex + n) % buf.capacity })) =
      some (n, buf.withRing ((buf.ring h).offer xs)) := by
  have hc := h.capacity_lt
  have hf := h.fill_lt
  have hlen := h.length_eq
  have hcap := BufferT.capacity_ring h
  have hfi : sizeT (buf.fillIndex + n) = buf.fillIndex + n := sizeT_of_eq (by omega) (by omega)
  have hlt : (srcArr.take n).length = n := List.length_take_of_le hn
  have hfill : (srcArr.take n).length ≤ (buf.ring h).capacity - (buf.ring h).fillIndex := by
    rw [hlt, hcap]
    exact hle
  rw [memcpy_eq_some (by omega) (by omega)]
  simp only [RingBuffer.offer, hacc, RingBuffer.fill_of_le _ hfill, BufferT.withRing, hcap, hfi,
    hlt, List.drop_zero]
  rfl

/-- A copy in two segments, up to the end of the block and on from its start, stores the bytes it
takes. -/
theorem copy_two_segments {srcArr xs : List UInt8} {n : ℕ} (hn : n ≤ srcArr.length)
    (hlt : buf.capacity - buf.fillIndex < n) (hv : n ≤ (buf.ring h).vacant)
    (hacc : (buf.ring h).accepted xs = srcArr.take n) :
    ((memcpy buf.buffer buf.fillIndex srcArr 0 (buf.capacity - buf.fillIndex)).bind fun bytes =>
      (memcpy bytes 0 srcArr (buf.capacity - buf.fillIndex)
        (n - (buf.capacity - buf.fillIndex))).map fun bytes =>
          (n, { buf with buffer := bytes, fillIndex := n - (buf.capacity - buf.fillIndex) })) =
      some (n, buf.withRing ((buf.ring h).offer xs)) := by
  have hf := h.fill_lt
  have hlen := h.length_eq
  have hcap := BufferT.capacity_ring h
  have hsv := (buf.ring h).size_add_vacant
  have hseg : (srcArr.take (buf.capacity - buf.fillIndex)).length =
      buf.capacity - buf.fillIndex := List.length_take_of_le (by omega)
  have hfi : (buf.fillIndex + n) % buf.capacity = n - (buf.capacity - buf.fillIndex) := by
    have := (buf.ring h).mod_capacity (i := buf.fillIndex + n) (by omega)
    rw [hcap, if_neg (by omega)] at this
    omega
  have hcells : (buf.ring h).fill (srcArr.take n) =
      (buf.buffer.blit buf.fillIndex (srcArr.take (buf.capacity - buf.fillIndex))).blit 0
        ((srcArr.drop (buf.capacity - buf.fillIndex)).take
          (n - (buf.capacity - buf.fillIndex))) := by
    rw [RingBuffer.fill, hcap, ← List.drop_take]
    change (buf.buffer.blit buf.fillIndex
      ((srcArr.take n).take (buf.capacity - buf.fillIndex))).blit 0 _ = _
    rw [List.take_take, Nat.min_eq_left (by omega)]
    rfl
  have hbytes : (buf.buffer.blit buf.fillIndex
      (srcArr.take (buf.capacity - buf.fillIndex))).length = buf.capacity := by
    rw [List.length_blit (by omega), hlen]
  rw [memcpy_eq_some (by omega) (by omega), List.drop_zero, Option.bind_some,
    memcpy_eq_some (by omega) (by omega), Option.map_some]
  simp only [RingBuffer.offer, hacc, hcells, BufferT.withRing, hcap, List.length_take,
    Nat.min_eq_left hn]
  rw [← hfi]
  rfl

/-- **`buffer_flush` empties the buffer** and clears its block. -/
theorem bufferFlush_eq : bufferFlush buf =
    some (buf.withRing (RingBuffer.empty (List.replicate buf.capacity 0)
      (by rw [List.length_replicate]; exact Nat.zero_lt_of_lt h.read_lt))) := by
  have hlen := h.length_eq
  have hblit : buf.buffer.blit 0 (List.replicate buf.capacity 0) =
      List.replicate buf.capacity 0 := by
    rw [List.blit, List.drop_eq_nil_of_le (by rw [List.length_replicate]; omega)]
    simp
  rw [bufferFlush, memset, if_pos (by omega), Option.map_some, hblit]
  rfl

/-- **`buffer_write` appends the byte if there is room for it.** -/
theorem bufferWrite_eq (writeByte : UInt8) :
    bufferWrite buf writeByte =
      some (((buf.ring h).accepted [writeByte]).length,
        buf.withRing ((buf.ring h).offer [writeByte])) := by
  have hf := h.fill_lt
  unfold bufferWrite
  simp only [vacant_eq h]
  split_ifs with hv
  · have hacc : (buf.ring h).accepted [writeByte] = [] := by
      rw [RingBuffer.accepted, show (buf.ring h).vacant = 0 by omega, List.take_zero]
    rw [RingBuffer.offer_eq_self _ hacc, hacc]
    rfl
  · have hacc : (buf.ring h).accepted [writeByte] = [writeByte] :=
      List.take_of_length_le (by simp only [List.length_singleton]; omega)
    rw [hacc]
    exact copy_one_segment h (show 1 ≤ [writeByte].length from le_rfl) (by omega) hacc

/-- The branches of `buffer_write_multiple`: nothing is taken, or one segment up to the end of the
room, or a segment up to the end of the block and one from its start.

**Proof sketch.** The conversions lose nothing. The last branch is not taken with the reader ahead,
where the room up to the reader is all the room there is. -/
theorem bufferWriteMultiple_branches (srcArr : List UInt8) (wSize : ℕ) :
    bufferWriteMultiple buf srcArr wSize =
      if min wSize (buf.ring h).vacant = 0 then some (0, buf)
      else if min wSize (buf.ring h).vacant ≤ buf.vacantEnd then
        (memcpy buf.buffer buf.fillIndex srcArr 0 (min wSize (buf.ring h).vacant)).map fun bytes =>
          (min wSize (buf.ring h).vacant, { buf with
            buffer := bytes
            fillIndex :=
              sizeT (buf.fillIndex + (min wSize (buf.ring h).vacant : ℕ)) % buf.capacity })
      else
        (memcpy buf.buffer buf.fillIndex srcArr 0 (buf.capacity - buf.fillIndex)).bind fun bytes =>
          (memcpy bytes 0 srcArr (buf.capacity - buf.fillIndex)
            (min wSize (buf.ring h).vacant - (buf.capacity - buf.fillIndex))).map fun bytes =>
              (min wSize (buf.ring h).vacant, { buf with
                buffer := bytes
                fillIndex :=
                  min wSize (buf.ring h).vacant - (buf.capacity - buf.fillIndex) }) := by
  have hc := h.capacity_lt
  have hr := h.read_lt
  have hf := h.fill_lt
  have hcap := BufferT.capacity_ring h
  have hsv := (buf.ring h).size_add_vacant
  have hsize := BufferT.size_ring h
  unfold bufferWriteMultiple
  simp only [vacant_eq h, sizeT_natCast (show (buf.ring h).vacant < 4294967296 by omega)]
  by_cases h0 : min wSize (buf.ring h).vacant = 0
  · rw [if_pos h0, if_pos (show wSize = 0 ∨ ((buf.ring h).vacant : ℤ) = 0 by omega)]
  · have hn : (if wSize > (buf.ring h).vacant then (buf.ring h).vacant else wSize) =
        min wSize (buf.ring h).vacant := by
      split_ifs <;> omega
    have hle : min wSize (buf.ring h).vacant ≤ (buf.ring h).vacant := Nat.min_le_right _ _
    rw [if_neg h0, if_neg (show ¬ (wSize = 0 ∨ ((buf.ring h).vacant : ℤ) = 0) by omega)]
    simp only [hn]
    generalize min wSize (buf.ring h).vacant = n at hle
    unfold BufferT.vacantEnd
    by_cases hahead : buf.readIndex > buf.fillIndex
    · rw [if_neg (by omega)] at hsize
      simp only [if_pos hahead]
      rw [int32_sizeT (by omega) (by omega), if_pos (by unfold sizeT; omega), if_pos (by omega)]
    · have hend : int32 (sizeT (buf.capacity - buf.fillIndex)) =
          ((buf.capacity - buf.fillIndex : ℕ) : ℤ) := by
        rw [int32_sizeT (by omega) (by omega)]
        omega
      simp only [if_neg hahead, hend,
        sizeT_natCast (show buf.capacity - buf.fillIndex < 4294967296 by omega)]
      split_ifs with hlin
      · rfl
      · have hrem : sizeT (int32 (sizeT (n - (buf.capacity - buf.fillIndex : ℕ)))) =
            n - (buf.capacity - buf.fillIndex) := by
          rw [int32_sizeT (by omega) (by omega)]
          exact sizeT_of_eq (by omega) (by omega)
        simp only [hrem]

omit h in
/-- The condition under which `buffer_write_multiple` copies in two segments: it takes something,
and more than `vacant_end`. -/
def BufferT.WritesWrapped (destBuf : BufferT) (wSize : ℕ) : Prop :=
  let vacant := int32 (sizeT (destBuf.capacity - bufferGetSize destBuf - 1))
  let vacantEnd :=
    if destBuf.readIndex > destBuf.fillIndex then
      int32 (sizeT (destBuf.readIndex - destBuf.fillIndex - 1))
    else int32 (sizeT (destBuf.capacity - destBuf.fillIndex))
  ¬ (wSize = 0 ∨ vacant = 0) ∧
    sizeT vacantEnd < if wSize > sizeT vacant then sizeT vacant else wSize

omit h in
/-- Otherwise it returns at once, or copies one segment. -/
theorem bufferWriteMultiple_of_not_wrapped {wSize : ℕ} (hw : ¬ buf.WritesWrapped wSize)
    (srcArr : List UInt8) :
    bufferWriteMultiple buf srcArr wSize = some (0, buf) ∨
      ∃ n, bufferWriteMultiple buf srcArr wSize =
        (memcpy buf.buffer buf.fillIndex srcArr 0 n).map fun bytes =>
          (n, { buf with
            buffer := bytes, fillIndex := sizeT (buf.fillIndex + n) % buf.capacity }) := by
  unfold bufferWriteMultiple
  dsimp only
  by_cases h0 : wSize = 0 ∨ int32 (sizeT (buf.capacity - bufferGetSize buf - 1)) = 0
  · exact Or.inl (if_pos h0)
  · refine Or.inr ⟨_, (if_neg h0).trans (if_pos ?_)⟩
    by_contra hlt
    exact hw ⟨h0, Nat.lt_of_not_le hlt⟩

/-- With the reader at the start of the block no write is wrapped: the room ends one cell before the
end of the block, also for a write that fills it. -/
theorem not_writesWrapped_of_readIndex (hr : buf.readIndex = 0) (wSize : ℕ) :
    ¬ buf.WritesWrapped wSize := by
  have hc := h.capacity_lt
  have hf := h.fill_lt
  have hsv := (buf.ring h).size_add_vacant
  have hsize := BufferT.size_ring h
  rw [BufferT.capacity_ring h] at hsv
  rw [if_pos (by omega)] at hsize
  rintro ⟨-, hlt⟩
  rw [vacant_eq h, if_neg (by omega), int32_sizeT (by omega) (by omega), sizeT_natCast (by omega),
    sizeT_of_eq (n := buf.capacity - buf.fillIndex) (by omega) (by omega)] at hlt
  split_ifs at hlt <;> omega

/-- **`buffer_write_multiple` appends as many bytes as there is room for.** The source array only
has to have the bytes that are taken. -/
theorem bufferWriteMultiple_eq {srcArr : List UInt8} {wSize : ℕ}
    (hsrc : min wSize (buf.ring h).vacant ≤ srcArr.length) :
    bufferWriteMultiple buf srcArr wSize =
      some (min wSize (buf.ring h).vacant,
        buf.withRing ((buf.ring h).offer (srcArr.take wSize))) := by
  have hacc : (buf.ring h).accepted (srcArr.take wSize) =
      srcArr.take (min wSize (buf.ring h).vacant) := by
    rw [RingBuffer.accepted, List.take_take, Nat.min_comm]
  rw [bufferWriteMultiple_branches h]
  split_ifs with hzero hlin
  · rw [RingBuffer.offer_eq_self _ (by rw [hacc, hzero, List.take_zero]), hzero]
    rfl
  · exact copy_one_segment h hsrc (hlin.trans (BufferT.vacantEnd_le h)) hacc
  · have hend := BufferT.vacantEnd_eq_of_lt h
      (show buf.vacantEnd < (buf.ring h).vacant by omega)
    exact copy_two_segments h hsrc (by omega) (Nat.min_le_right _ _) hacc

/-- A bulk write is undefined if the source array does not have the bytes that are taken. -/
theorem bufferWriteMultiple_eq_none {srcArr : List UInt8} {wSize : ℕ}
    (hsrc : srcArr.length < min wSize (buf.ring h).vacant) :
    bufferWriteMultiple buf srcArr wSize = none := by
  rw [bufferWriteMultiple_branches h, if_neg (by omega)]
  split_ifs with hlin
  · rw [memcpy_eq_none (by omega)]
    rfl
  · rw [Option.bind_eq_none_iff]
    intro bytes _
    rw [memcpy_eq_none (by omega)]
    rfl

/-- A bulk write that is defined keeps the invariant and the capacity. -/
theorem wf_of_bufferWriteMultiple {srcArr : List UInt8} {wSize n : ℕ} {buf' : BufferT}
    (hw : bufferWriteMultiple buf srcArr wSize = some (n, buf')) :
    buf'.Wf ∧ buf'.capacity = buf.capacity := by
  by_cases hsrc : min wSize (buf.ring h).vacant ≤ srcArr.length
  · rw [bufferWriteMultiple_eq h hsrc, Option.some.injEq, Prod.mk.injEq] at hw
    obtain ⟨-, rfl⟩ := hw
    exact ⟨BufferT.wf_withRing h (by rw [RingBuffer.capacity_offer, BufferT.capacity_ring]), rfl⟩
  · rw [bufferWriteMultiple_eq_none h (by omega)] at hw
    cases hw

/-- `buffer_read` on an empty buffer returns `-1` and changes nothing. -/
theorem bufferRead_of_nil (hl : (buf.ring h).toList = []) : bufferRead buf = some (-1, buf) := by
  have hs : bufferGetSize buf = 0 := by
    rw [bufferGetSize_eq h, ← RingBuffer.length_toList, hl, List.length_nil]
  rw [bufferRead, if_pos hs]

/-- `buffer_read` on a buffer with stored bytes returns the first of them. It moves the read index
to the next cell, also from the last one, where the next cell is outside the block. -/
theorem bufferRead_of_cons {b : UInt8} {bs : List UInt8} (hl : (buf.ring h).toList = b :: bs) :
    bufferRead buf = some ((b.toNat : ℤ), { buf with readIndex := buf.readIndex + 1 }) := by
  have hc := h.capacity_lt
  have hr := h.read_lt
  have hcap := BufferT.capacity_ring h
  have hlt := (buf.ring h).size_lt_capacity
  have hsize : 0 < (buf.ring h).size := by
    rw [← RingBuffer.length_toList, hl]
    exact Nat.succ_pos _
  have hbyte : buf.buffer[buf.readIndex]? = some b := by
    have := (buf.ring h).getElem?_readIndex hsize
    rwa [hl] at this
  have hmod : sizeT (buf.readIndex + 1 % buf.capacity) = buf.readIndex + 1 := by
    rw [Int.emod_eq_of_lt (by omega) (by omega)]
    exact sizeT_of_eq (by omega) (by omega)
  rw [bufferRead, if_neg (by rw [bufferGetSize_eq h]; omega), hbyte, hmod]
  rfl

/-- As long as the read index stays in range, `buffer_read` removes the byte it returns. -/
theorem readIndex_succ_eq_skip (hs : 0 < (buf.ring h).size)
    (hr : buf.readIndex + 1 < buf.capacity) :
    { buf with readIndex := buf.readIndex + 1 } = buf.withRing ((buf.ring h).skip 1) := by
  have hcap := BufferT.capacity_ring h
  simp only [BufferT.withRing, RingBuffer.skip, hcap, Nat.min_eq_left (show 1 ≤ _ from hs)]
  rw [Nat.mod_eq_of_lt (show (buf.ring h).readIndex + 1 < buf.capacity from hr)]
  rfl

omit h in
/-- The bulk read is limited by the number of stored bytes as the code finds it, modulo `256`, and
is a copy of one segment.

**Proof sketch.** If nothing is taken the function has returned. Otherwise the indices differ, so
their difference in `size_t` is positive and the first branch is taken, wrapped or not. If the
difference is positive as an `int` it is the number of stored bytes that was found; if not, it is so
large that it does not limit the number of bytes. -/
theorem bufferReadMultiple_eq_copy (h : buf.InRange) (destBuf : List UInt8) (rSize : ℕ) :
    bufferReadMultiple destBuf buf rSize =
      (memcpy destBuf 0 buf.buffer buf.readIndex (min rSize (bufferGetSize buf % 256))).map
        fun dest => (min rSize (bufferGetSize buf % 256), dest, { buf with
          readIndex := sizeT (buf.readIndex + (min rSize (bufferGetSize buf % 256) : ℕ)) %
            buf.capacity }) := by
  have hc := h.capacity_lt
  have hr := h.read_lt
  have hf := h.fill_lt
  have hlen := h.length_eq
  have hdiff : bufferGetSize buf % 256 ≤ sizeT (buf.fillIndex - buf.readIndex) := by
    unfold bufferGetSize
    dsimp only
    unfold int32 sizeT
    split_ifs <;> omega
  have hdiff' : sizeT (int32 (sizeT (buf.fillIndex - buf.readIndex))) =
      sizeT (buf.fillIndex - buf.readIndex) := by
    unfold int32 sizeT
    split_ifs <;> omega
  unfold bufferReadMultiple uint8
  dsimp only
  by_cases h0 : bufferGetSize buf % 256 = 0 ∨ rSize = 0
  · have hmin : min rSize (bufferGetSize buf % 256) = 0 := by omega
    rw [if_pos h0, hmin, memcpy_eq_some (by omega) (by omega), List.take_zero, List.blit_nil,
      sizeT_of_eq (n := buf.readIndex) (by omega) (by omega), Nat.mod_eq_of_lt hr]
    rfl
  · have hn : (if rSize > bufferGetSize buf % 256 then bufferGetSize buf % 256 else rSize) =
        min rSize (bufferGetSize buf % 256) := by
      split_ifs <;> omega
    have hlt256 : min rSize (bufferGetSize buf % 256) < 256 := by omega
    rw [if_neg h0]
    simp only [hn, hdiff']
    rw [if_pos (by omega), if_neg (by omega), Nat.mod_eq_of_lt hlt256]

omit h in
/-- A bulk read into an array with room for the bytes that are taken. Where their segment runs over
the end of the block the copy is undefined. -/
theorem bufferReadMultiple_of_inRange (h : buf.InRange) {destBuf : List UInt8} {rSize : ℕ}
    (hd : min rSize (bufferGetSize buf % 256) ≤ destBuf.length) :
    bufferReadMultiple destBuf buf rSize =
      if buf.readIndex + min rSize (bufferGetSize buf % 256) ≤ buf.capacity then
        some (min rSize (bufferGetSize buf % 256),
          destBuf.blit 0 ((buf.buffer.drop buf.readIndex).take
            (min rSize (bufferGetSize buf % 256))),
          { buf with
            readIndex := (buf.readIndex + min rSize (bufferGetSize buf % 256)) % buf.capacity })
      else none := by
  have hc := h.capacity_lt
  have hlen := h.length_eq
  rw [bufferReadMultiple_eq_copy h]
  split_ifs with hseg
  · have hri : sizeT (buf.readIndex + (min rSize (bufferGetSize buf % 256) : ℕ)) =
        buf.readIndex + min rSize (bufferGetSize buf % 256) :=
      sizeT_of_eq (by omega) (by omega)
    rw [memcpy_eq_some (by omega) (by omega), hri]
    rfl
  · rw [memcpy_eq_none (by omega)]
    rfl

omit h in
/-- A bulk read into an array without room for the bytes that are taken is undefined. -/
theorem bufferReadMultiple_eq_none (h : buf.InRange) {destBuf : List UInt8} {rSize : ℕ}
    (hd : destBuf.length < min rSize (bufferGetSize buf % 256)) :
    bufferReadMultiple destBuf buf rSize = none := by
  rw [bufferReadMultiple_eq_copy h, memcpy_eq_none_of_dst (by omega)]
  rfl

/-- **What `buffer_read_multiple` does.** It takes as many bytes as were asked for, but no more
than the number of stored bytes modulo `256`, in one segment from the read index. Where that
segment runs over the end of the block the copy is undefined. -/
theorem bufferReadMultiple_eq {destBuf : List UInt8} {rSize : ℕ}
    (hd : min rSize ((buf.ring h).size % 256) ≤ destBuf.length) :
    bufferReadMultiple destBuf buf rSize =
      if buf.readIndex + min rSize ((buf.ring h).size % 256) ≤ buf.capacity then
        some (min rSize ((buf.ring h).size % 256),
          destBuf.blit 0 ((buf.ring h).toList.take (min rSize ((buf.ring h).size % 256))),
          buf.withRing ((buf.ring h).skip (min rSize ((buf.ring h).size % 256))))
      else none := by
  have hcap := BufferT.capacity_ring h
  have hle : min rSize ((buf.ring h).size % 256) ≤ (buf.ring h).size := by
    have := Nat.mod_le (buf.ring h).size 256
    omega
  have hsize := bufferGetSize_eq h
  rw [← hsize] at hd ⊢
  rw [bufferReadMultiple_of_inRange h.inRange hd, hsize]
  split_ifs with hseg
  · have htake : (buf.buffer.drop buf.readIndex).take (min rSize ((buf.ring h).size % 256)) =
        (buf.ring h).toList.take (min rSize ((buf.ring h).size % 256)) :=
      (buf.ring h).take_drop_cells hle (by rw [hcap]; exact hseg)
    simp only [htake, BufferT.withRing, RingBuffer.skip, Nat.min_eq_left hle, hcap]
    rfl
  · rfl

end SensorCollector
