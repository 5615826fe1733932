import SensorCollector.Buffer.Spec

set_option relaxedAutoImplicit false
set_option autoImplicit false

/-!
# What the writes do to the block

The bulk write cell by cell, and the bulk write against the bytewise one. The bulk write appends as
many bytes as there is room for and touches no other cell; how a sequence of bytes is split into
calls makes no difference to the buffer.

## Main definitions

* `SensorCollector.BulkWritten` — a buffer after a bulk write, in terms of the buffer before.
* `SensorCollector.writeChunks`, `SensorCollector.writeBytes` — a sequence of bytes written chunk by
  chunk, and byte by byte.

## Main results

* `SensorCollector.bufferWriteMultiple_spec` — the bulk write, cell by cell.
* `SensorCollector.writes_eq_bufferWriteMultiple` — all ways to write a sequence of bytes agree.
-/

namespace SensorCollector

/-! ## The bulk write, cell by cell -/

/-- The buffer `buf'` is `buf` with the first `n` bytes of `srcArr` written behind the stored
bytes. -/
structure BulkWritten (buf : BufferT) (srcArr : List UInt8) (n : ℕ) (buf' : BufferT) : Prop where
  /-- The next `n` cells, around the end of the block, hold the bytes written. -/
  new_cell : ∀ k < n, buf'.buffer[(buf.fillIndex + k) % buf.capacity]? = srcArr[k]?
  /-- Every other cell is as before. -/
  old_cell : ∀ i < buf.capacity, (∀ k < n, i ≠ (buf.fillIndex + k) % buf.capacity) →
    buf'.buffer[i]? = buf.buffer[i]?
  /-- The cell of every unread byte is as before. -/
  unread_cell : ∀ k < bufferGetSize buf, buf'.buffer[(buf.readIndex + k) % buf.capacity]? =
    buf.buffer[(buf.readIndex + k) % buf.capacity]?
  length_eq : buf'.buffer.length = buf.capacity
  base_eq : buf'.base = buf.base
  capacity_eq : buf'.capacity = buf.capacity
  readIndex_eq : buf'.readIndex = buf.readIndex
  fillIndex_eq : buf'.fillIndex = (buf.fillIndex + n) % buf.capacity
  size_eq : bufferGetSize buf' = bufferGetSize buf + n
  /-- One cell stays free. -/
  size_le : bufferGetSize buf' ≤ buf.capacity - 1
  /-- The indices only meet if nothing is stored. -/
  meet_iff : buf'.readIndex = buf'.fillIndex ↔ bufferGetSize buf + n = 0

section

variable {buf : BufferT} (h : buf.Wf)

include h

/-- The vacant cells of a buffer, in terms of its size. -/
theorem vacant_ring : (buf.ring h).vacant = buf.capacity - 1 - bufferGetSize buf := by
  rw [RingBuffer.vacant, BufferT.capacity_ring h, bufferGetSize_eq h]

/-- Bytes that are appended to the ring as a whole are written as a bulk write should. -/
theorem bulkWritten_offer {xs srcArr : List UInt8} {n : ℕ} (hn : n ≤ srcArr.length)
    (hacc : (buf.ring h).accepted xs = srcArr.take n) :
    BulkWritten buf srcArr n (buf.withRing ((buf.ring h).offer xs)) := by
  have hcap := BufferT.capacity_ring h
  have hr := h.read_lt
  have hsv := (buf.ring h).size_add_vacant
  have hlen : (srcArr.take n).length = n := List.length_take_of_le hn
  have hle : (srcArr.take n).length ≤ (buf.ring h).vacant := by
    rw [← hacc, RingBuffer.length_accepted]
    omega
  have hcells : (buf.withRing ((buf.ring h).offer xs)).buffer =
      (buf.ring h).fill (srcArr.take n) := by
    rw [← hacc]
    rfl
  have hcapr : ((buf.ring h).offer xs).capacity = buf.capacity := by
    rw [RingBuffer.capacity_offer, hcap]
  have hwf := BufferT.wf_withRing h hcapr
  have hold : ∀ i < buf.capacity, (∀ k < n, i ≠ (buf.fillIndex + k) % buf.capacity) →
      (buf.withRing ((buf.ring h).offer xs)).buffer[i]? = buf.buffer[i]? := by
    intro i hi hne
    rw [hcells]
    refine (buf.ring h).getElem?_fill_old hle (by rwa [hcap]) fun k hk => ?_
    rw [hcap]
    exact hne k (by omega)
  have hsize : bufferGetSize (buf.withRing ((buf.ring h).offer xs)) = bufferGetSize buf + n := by
    rw [bufferGetSize_eq hwf, BufferT.ring_withRing, RingBuffer.size_offer, hacc, hlen,
      bufferGetSize_eq h]
  refine ⟨?_, hold, ?_, hcapr, rfl, rfl, rfl, ?_, hsize, ?_, ?_⟩
  · intro k hk
    have hnew := (buf.ring h).getElem?_fill_new hle (k := k) (by omega)
    rw [hcap, List.getElem?_take_of_lt hk] at hnew
    rw [hcells]
    exact hnew
  · intro k hk
    rw [bufferGetSize_eq h] at hk
    apply hold _ (Nat.mod_lt _ (by omega))
    -- an unread byte is closer to the read index than every cell that is written
    intro j hj heq
    have hfi := (buf.ring h).fillIndex_eq
    rw [hcap] at hfi hsv
    change buf.fillIndex = (buf.readIndex + (buf.ring h).size) % buf.capacity at hfi
    have hmod : ∀ {i : ℕ}, i < 2 * buf.capacity →
        i % buf.capacity = if i < buf.capacity then i else i - buf.capacity := fun {i} hi => by
      have := (buf.ring h).mod_capacity (i := i) (by omega)
      rwa [hcap] at this
    rw [hfi, Nat.mod_add_mod, hmod (by omega), hmod (by omega)] at heq
    split_ifs at heq <;> omega
  · change (buf.fillIndex + ((buf.ring h).accepted xs).length) % (buf.ring h).capacity = _
    rw [hacc, hlen, hcap]
  · rw [hsize, bufferGetSize_eq h]
    rw [hcap] at hsv
    omega
  · rw [← hsize, bufferGetSize_eq hwf]
    exact ((buf.withRing ((buf.ring h).offer xs)).ring hwf).size_eq_zero_iff.symm

/-- **The bulk write, cell by cell.** `buffer_write_multiple` writes as many bytes as there is room
for behind the stored bytes, and changes nothing else. It reads no other byte of the source: an
array with the bytes that are taken is enough, and what follows them makes no difference. -/
theorem bufferWriteMultiple_spec {srcArr : List UInt8} {wSize : ℕ}
    (hsrc : min wSize (buf.capacity - 1 - bufferGetSize buf) ≤ srcArr.length) :
    (∃ buf', bufferWriteMultiple buf srcArr wSize =
        some (min wSize (buf.capacity - 1 - bufferGetSize buf), buf') ∧
      BulkWritten buf srcArr (min wSize (buf.capacity - 1 - bufferGetSize buf)) buf') ∧
      ∀ srcArr' : List UInt8, srcArr'.take (min wSize (buf.capacity - 1 - bufferGetSize buf)) =
          srcArr.take (min wSize (buf.capacity - 1 - bufferGetSize buf)) →
        bufferWriteMultiple buf srcArr' wSize = bufferWriteMultiple buf srcArr wSize := by
  rw [← vacant_ring h] at hsrc ⊢
  have hacc : ∀ src : List UInt8, (buf.ring h).accepted (src.take wSize) =
      src.take (min wSize (buf.ring h).vacant) := fun src => by
    rw [RingBuffer.accepted, List.take_take, Nat.min_comm]
  constructor
  · exact ⟨_, bufferWriteMultiple_eq h hsrc, bulkWritten_offer h hsrc (hacc srcArr)⟩
  · intro srcArr' heq
    have hsrc' : min wSize (buf.ring h).vacant ≤ srcArr'.length := by
      have hlen := congrArg List.length heq
      rw [List.length_take, List.length_take] at hlen
      omega
    rw [bufferWriteMultiple_eq h hsrc', bufferWriteMultiple_eq h hsrc]
    simp only [RingBuffer.offer, hacc, heq]

end

/-- Three bytes offered to a buffer of four cells that stores one byte in the last of them. -/
theorem bufferWriteMultiple_spec_four_cells :
    (∃ buf', bufferWriteMultiple ⟨0, [0, 0, 0, 5], 3, 0, 4⟩ [7, 8, 9] 3 = some (2, buf') ∧
      BulkWritten ⟨0, [0, 0, 0, 5], 3, 0, 4⟩ [7, 8, 9] 2 buf') ∧
      ∀ srcArr' : List UInt8, srcArr'.take 2 = [7, 8, 9].take 2 →
        bufferWriteMultiple ⟨0, [0, 0, 0, 5], 3, 0, 4⟩ srcArr' 3 =
          bufferWriteMultiple ⟨0, [0, 0, 0, 5], 3, 0, 4⟩ [7, 8, 9] 3 :=
  @bufferWriteMultiple_spec ⟨0, [0, 0, 0, 5], 3, 0, 4⟩ ⟨rfl, by decide, by decide, by decide⟩
    [7, 8, 9] 3 (by decide)

/-! ## Writing in chunks -/

/-- Write chunks one after another with `buffer_write_multiple`: the number of bytes written in all,
and the buffer afterwards. -/
def writeChunks (buf : BufferT) : List (List UInt8) → Option (ℕ × BufferT)
  | [] => some (0, buf)
  | chunk :: chunks =>
    (bufferWriteMultiple buf chunk chunk.length).bind fun r =>
      (writeChunks r.2 chunks).map fun r' => (r.1 + r'.1, r'.2)

/-- Write bytes one after another with `buffer_write`: the number of bytes written in all, and the
buffer afterwards. -/
def writeBytes (buf : BufferT) : List UInt8 → Option (ℕ × BufferT)
  | [] => some (0, buf)
  | b :: bs =>
    (bufferWrite buf b).bind fun r => (writeBytes r.2 bs).map fun r' => (r.1 + r'.1, r'.2)

section

variable {buf : BufferT} (h : buf.Wf)

include h

/-- A whole array is appended to the ring as far as it fits. -/
theorem bufferWriteMultiple_length_eq (xs : List UInt8) :
    bufferWriteMultiple buf xs xs.length =
      some (((buf.ring h).accepted xs).length, buf.withRing ((buf.ring h).offer xs)) := by
  rw [bufferWriteMultiple_eq h (Nat.min_le_left _ _), List.take_length, RingBuffer.length_accepted]

/-- Two writes one after the other are one write of all bytes, if each writes to the ring what it is
given. -/
theorem write_then_write {xs ys : List UInt8} {rest : BufferT → Option (ℕ × BufferT)}
    (hrest : ∀ {buf' : BufferT} (h' : buf'.Wf), rest buf' =
      some (((buf'.ring h').accepted ys).length, buf'.withRing ((buf'.ring h').offer ys))) :
    ((some (((buf.ring h).accepted xs).length, buf.withRing ((buf.ring h).offer xs))).bind fun r =>
        (rest r.2).map fun r' => (r.1 + r'.1, r'.2)) =
      some (((buf.ring h).accepted (xs ++ ys)).length,
        buf.withRing ((buf.ring h).offer (xs ++ ys))) := by
  have hcap : ((buf.ring h).offer xs).capacity = buf.capacity := by
    rw [RingBuffer.capacity_offer, BufferT.capacity_ring]
  have hwf := BufferT.wf_withRing h hcap
  rw [Option.bind_some, hrest hwf, Option.map_some, BufferT.ring_withRing, RingBuffer.offer_offer,
    RingBuffer.accepted_append, List.length_append]
  rfl

/-- Chunks are appended to the ring one after another, as all their bytes at once. -/
theorem writeChunks_eq (chunks : List (List UInt8)) :
    writeChunks buf chunks = some (((buf.ring h).accepted chunks.flatten).length,
      buf.withRing ((buf.ring h).offer chunks.flatten)) := by
  induction chunks generalizing buf with
  | nil =>
    have hacc : (buf.ring h).accepted [] = [] := List.take_nil
    rw [List.flatten_nil, hacc, RingBuffer.offer_eq_self _ hacc]
    rfl
  | cons chunk chunks ih =>
    rw [writeChunks, bufferWriteMultiple_length_eq h, List.flatten_cons]
    exact write_then_write h fun h' => ih h'

/-- Bytes are appended to the ring one after another, as all of them at once. -/
theorem writeBytes_eq (bytes : List UInt8) :
    writeBytes buf bytes = some (((buf.ring h).accepted bytes).length,
      buf.withRing ((buf.ring h).offer bytes)) := by
  induction bytes generalizing buf with
  | nil =>
    have hacc : (buf.ring h).accepted [] = [] := List.take_nil
    rw [hacc, RingBuffer.offer_eq_self _ hacc]
    rfl
  | cons b bs ih =>
    rw [writeBytes, bufferWrite_eq h]
    exact write_then_write h fun h' => ih h'

/-- **The split into calls makes no difference.** A sequence of bytes that is written in chunks, at
once or byte by byte ends in the same buffer, and the same number of bytes is accepted.

**Proof sketch.** Each of the three appends the bytes to the ring, and appending twice is appending
once. -/
theorem writes_eq_bufferWriteMultiple (chunks : List (List UInt8)) :
    ∃ n buf', writeChunks buf chunks = some (n, buf') ∧
      bufferWriteMultiple buf chunks.flatten chunks.flatten.length = some (n, buf') ∧
      writeBytes buf chunks.flatten = some (n, buf') :=
  ⟨_, _, writeChunks_eq h chunks, bufferWriteMultiple_length_eq h chunks.flatten,
    writeBytes_eq h chunks.flatten⟩

end

/-- Chunks that run over the end of a block of four cells, and are cut off. -/
theorem writes_eq_bufferWriteMultiple_four_cells :
    ∃ n buf', writeChunks ⟨0, [0, 0, 0, 5], 2, 3, 4⟩ [[7], [], [8, 9]] = some (n, buf') ∧
      bufferWriteMultiple ⟨0, [0, 0, 0, 5], 2, 3, 4⟩ [7, 8, 9] 3 = some (n, buf') ∧
      writeBytes ⟨0, [0, 0, 0, 5], 2, 3, 4⟩ [7, 8, 9] = some (n, buf') :=
  @writes_eq_bufferWriteMultiple ⟨0, [0, 0, 0, 5], 2, 3, 4⟩ ⟨rfl, by decide, by decide, by decide⟩
    [[7], [], [8, 9]]

end SensorCollector
