import SensorCollector.Lib.EventMachine
import SensorCollector.Buffer.Spec

set_option relaxedAutoImplicit false
set_option autoImplicit false

/-!
# Runs of the bytewise read path

The buffer under any interleaving of the two writes and the bytewise read. A run is compared with
the queue of the accepted bytes: what the reads return is a prefix of what the writes accepted,
and the rest is stored.

The bytewise read moves the read index without wrapping it. So the comparison holds exactly as
long as no stored byte is read from the last cell of the block.

## Main definitions

* `SensorCollector.BufferOp`, `SensorCollector.bufferMachine` — the operations and their runs.
* `SensorCollector.ByteFifo` — what a run does when the buffer is a queue of bytes.
* `SensorCollector.ReadsBelowLast` — a stored byte is not read from the last cell.

## Main results

* `SensorCollector.byteFifo_iff_readsBelowLast` — a run is that of a queue if and only if no stored
  byte is read from the last cell.
-/

namespace SensorCollector

open EventMachine

/-- The operations of a run. A bulk write comes with an array that has the bytes to be written. -/
inductive BufferOp
  /-- `buffer_write`. -/
  | write (writeByte : UInt8)
  /-- `buffer_write_multiple`. -/
  | writeMultiple (srcArr : List UInt8) (wSize : ℕ) (hsize : wSize ≤ srcArr.length)
  /-- `buffer_read`. -/
  | read
  deriving DecidableEq

/-- The bytes an operation offers to the buffer. -/
def BufferOp.offered : BufferOp → List UInt8
  | .write writeByte => [writeByte]
  | .writeMultiple srcArr wSize _ => srcArr.take wSize
  | .read => []

/-- The buffer as a machine. The output of a step is the value the function returns. -/
def bufferMachine : EventMachine BufferT BufferOp ℤ where
  step buf
    | .write writeByte => (bufferWrite buf writeByte).map fun r => (r.2, (r.1 : ℤ))
    | .writeMultiple srcArr wSize _ =>
      (bufferWriteMultiple buf srcArr wSize).map fun r => (r.2, (r.1 : ℤ))
    | .read => (bufferRead buf).map fun r => (r.2, r.1)

/-- The bytes a step reports as accepted: as many of the offered bytes as a write returns. -/
def acceptedBytes (t : Transition BufferT BufferOp ℤ) : List UInt8 :=
  t.event.offered.take t.out.toNat

/-- The values of the successful reads of a step. -/
def returnedBytes (t : Transition BufferT BufferOp ℤ) : List ℤ :=
  if t.event = .read ∧ t.out ≠ -1 then [t.out] else []

/-- The history `tr` of a buffer of capacity `c`, which ends in `buf`, is that of a queue of bytes.
Asked of every prefix of a run, the last field is about every read of the run. -/
structure ByteFifo (c : ℕ) (tr : List (Transition BufferT BufferOp ℤ)) (buf : BufferT) :
    Prop where
  /-- The read index is in range. -/
  readIndex_lt : buf.readIndex < c
  /-- The fill index is in range. -/
  fillIndex_lt : buf.fillIndex < c
  /-- The size is the number of accepted bytes that have not been returned. -/
  size_eq : bufferGetSize buf + (tr.flatMap returnedBytes).length =
    (tr.flatMap acceptedBytes).length
  /-- One cell stays free. -/
  size_le : bufferGetSize buf ≤ c - 1
  /-- The `k`-th successful read returns the `k`-th accepted byte. -/
  fifo : tr.flatMap returnedBytes <+: (tr.flatMap acceptedBytes).map fun b => (b.toNat : ℤ)
  /-- A read returns `-1` and changes nothing exactly when every accepted byte was returned. -/
  read_eq_neg_one : ∀ tr' t, tr = tr' ++ [t] → t.event = .read →
    ((t.out = -1 ∧ t.post = t.pre) ↔
      (tr'.flatMap returnedBytes).length = (tr'.flatMap acceptedBytes).length)

/-- A byte is not read from the last cell of the block, unless the indices meet there. -/
def ReadsBelowLast (buf : BufferT) (op : BufferOp) : Prop :=
  op = .read → buf.readIndex ≠ buf.fillIndex → buf.readIndex + 1 < buf.capacity

/-- The run invariant: the buffer is well-formed and stores the accepted bytes that have not been
returned; and the last step, if it was a read, returned `-1` exactly on an empty buffer. -/
structure ByteRunInv (c : ℕ) (tr : List (Transition BufferT BufferOp ℤ)) (buf : BufferT) :
    Prop where
  /-- The buffer is well-formed. -/
  wf : buf.Wf
  /-- The capacity is the one of the initialisation. -/
  capacity_eq : buf.capacity = c
  /-- Returned and stored bytes make up the accepted bytes. -/
  conserved : ((tr.flatMap acceptedBytes).map fun b => (b.toNat : ℤ)) =
    tr.flatMap returnedBytes ++ (buf.ring wf).toList.map fun b => (b.toNat : ℤ)
  /-- What the last read returned. -/
  read_eq_neg_one : ∀ tr' t, tr = tr' ++ [t] → t.event = .read →
    ((t.out = -1 ∧ t.post = t.pre) ↔
      (tr'.flatMap returnedBytes).length = (tr'.flatMap acceptedBytes).length)

/-- A step that is not a read appends to the ring what it offers. -/
theorem step_of_ne_read {buf : BufferT} (h : buf.Wf) {op : BufferOp} (hop : op ≠ .read) :
    bufferMachine.step buf op =
      some (buf.withRing ((buf.ring h).offer op.offered),
        (((buf.ring h).accepted op.offered).length : ℤ)) := by
  cases op with
  | write writeByte =>
    simp only [bufferMachine, bufferWrite_eq h, BufferOp.offered, Option.map_some]
  | writeMultiple srcArr wSize hsize =>
    have hlen : ((buf.ring h).accepted (srcArr.take wSize)).length =
        min wSize (buf.ring h).vacant := by
      rw [RingBuffer.length_accepted, List.length_take_of_le hsize]
    have hsrc : min wSize (buf.ring h).vacant ≤ srcArr.length := by omega
    simp only [bufferMachine, bufferWriteMultiple_eq h hsrc, BufferOp.offered, Option.map_some,
      hlen]
  | read => exact absurd rfl hop

/-- The bytes reported as accepted by a step that is not a read are those the ring accepts. -/
theorem acceptedBytes_of_ne_read {buf buf' : BufferT} (h : buf.Wf) (op : BufferOp) :
    acceptedBytes ⟨buf, op, (((buf.ring h).accepted op.offered).length : ℤ), buf'⟩ =
      (buf.ring h).accepted op.offered := by
  simp only [acceptedBytes, Int.toNat_natCast, RingBuffer.length_accepted]
  rw [Nat.min_comm, ← List.take_eq_take_min]
  rfl

/-- What the two lists of a history and the stored bytes have to do with each other, for lengths. -/
theorem ByteRunInv.length_eq {c : ℕ} {tr : List (Transition BufferT BufferOp ℤ)} {buf : BufferT}
    (hinv : ByteRunInv c tr buf) :
    bufferGetSize buf + (tr.flatMap returnedBytes).length = (tr.flatMap acceptedBytes).length := by
  have hlen := congrArg List.length hinv.conserved
  rw [List.length_map, List.length_append, List.length_map, RingBuffer.length_toList] at hlen
  rw [bufferGetSize_eq hinv.wf]
  omega

/-- The run invariant makes the history that of a queue. -/
theorem ByteRunInv.byteFifo {c : ℕ} {tr : List (Transition BufferT BufferOp ℤ)} {buf : BufferT}
    (hinv : ByteRunInv c tr buf) : ByteFifo c tr buf where
  readIndex_lt := hinv.capacity_eq ▸ hinv.wf.read_lt
  fillIndex_lt := hinv.capacity_eq ▸ hinv.wf.fill_lt
  size_eq := hinv.length_eq
  size_le := by
    have hs := (buf.ring hinv.wf).size_lt_capacity
    rw [BufferT.capacity_ring, hinv.capacity_eq] at hs
    rw [bufferGetSize_eq hinv.wf]
    omega
  fifo := by
    rw [hinv.conserved]
    exact List.prefix_append _ _
  read_eq_neg_one := hinv.read_eq_neg_one

/-- A write keeps the run invariant: what it accepts is stored behind what was stored. -/
theorem ByteRunInv.step_of_ne_read {c : ℕ} {tr : List (Transition BufferT BufferOp ℤ)}
    {buf : BufferT} (hinv : ByteRunInv c tr buf) {op : BufferOp} (hop : op ≠ .read) :
    ∃ buf' o, bufferMachine.step buf op = some (buf', o) ∧
      ByteRunInv c (tr ++ [⟨buf, op, o, buf'⟩]) buf' := by
  have hcap : ((buf.ring hinv.wf).offer op.offered).capacity = buf.capacity := by
    rw [RingBuffer.capacity_offer, BufferT.capacity_ring]
  refine ⟨_, _, SensorCollector.step_of_ne_read hinv.wf hop, ?_⟩
  refine ⟨BufferT.wf_withRing hinv.wf hcap, hinv.capacity_eq, ?_, ?_⟩
  · have hret : ∀ o buf', returnedBytes ⟨buf, op, o, buf'⟩ = [] := fun o buf' => by
      simp [returnedBytes, hop]
    simp only [List.flatMap_append, List.flatMap_singleton, acceptedBytes_of_ne_read hinv.wf, hret,
      List.map_append, hinv.conserved, BufferT.ring_withRing, RingBuffer.toList_offer,
      List.append_nil, List.append_assoc]
  · intro tr' t heq hread
    obtain ⟨-, ht⟩ := List.append_inj' heq rfl
    obtain rfl : ⟨buf, op, _, _⟩ = t := by simpa using ht
    exact absurd hread hop

/-- A read below the last cell keeps the run invariant: it takes the first stored byte.

**Proof sketch.** On an empty buffer it returns `-1`, and the lengths agree by conservation.
Otherwise the byte at the read index is the first stored one, and the lengths differ. -/
theorem ByteRunInv.step_read {c : ℕ} {tr : List (Transition BufferT BufferOp ℤ)}
    {buf : BufferT} (hinv : ByteRunInv c tr buf)
    (hlast : buf.readIndex ≠ buf.fillIndex → buf.readIndex + 1 < buf.capacity) :
    ∃ buf' o, bufferMachine.step buf .read = some (buf', o) ∧
      ByteRunInv c (tr ++ [⟨buf, .read, o, buf'⟩]) buf' := by
  have hlen := hinv.length_eq
  rw [bufferGetSize_eq hinv.wf, ← RingBuffer.length_toList] at hlen
  have hacc : ∀ o buf', acceptedBytes ⟨buf, .read, o, buf'⟩ = [] := fun o buf' => by
    simp [acceptedBytes, BufferOp.offered]
  cases hl : (buf.ring hinv.wf).toList with
  | nil =>
    rw [hl, List.length_nil] at hlen
    refine ⟨buf, -1, by simp [bufferMachine, bufferRead_of_nil hinv.wf hl], ?_⟩
    refine ⟨hinv.wf, hinv.capacity_eq, ?_, ?_⟩
    · simp [hacc, returnedBytes, hinv.conserved]
    · intro tr' t heq _
      obtain ⟨rfl, ht⟩ := List.append_inj' heq rfl
      obtain rfl : ⟨buf, .read, -1, buf⟩ = t := by simpa using ht
      simp only [true_iff, and_self]
      omega
  | cons b bs =>
    have hsize : 0 < (buf.ring hinv.wf).size := by
      rw [← RingBuffer.length_toList, hl]
      exact Nat.succ_pos _
    have hcap : ((buf.ring hinv.wf).skip 1).capacity = buf.capacity :=
      BufferT.capacity_ring hinv.wf
    have hne : buf.readIndex ≠ buf.fillIndex := fun heq =>
      hsize.ne' ((buf.ring hinv.wf).size_eq_zero_iff.mpr heq)
    have hskip := readIndex_succ_eq_skip hinv.wf hsize (hlast hne)
    refine ⟨buf.withRing ((buf.ring hinv.wf).skip 1), b.toNat, ?_, ?_⟩
    · simp [bufferMachine, bufferRead_of_cons hinv.wf hl, hskip]
    · have hb : ((b.toNat : ℕ) : ℤ) ≠ -1 := by omega
      refine ⟨BufferT.wf_withRing hinv.wf hcap, hinv.capacity_eq, ?_, ?_⟩
      · simp [hacc, returnedBytes, hb, hinv.conserved, hl]
      · intro tr' t heq _
        obtain ⟨rfl, ht⟩ := List.append_inj' heq rfl
        obtain rfl : ⟨buf, .read, (b.toNat : ℤ), _⟩ = t := by simpa using ht
        rw [hl, List.length_cons] at hlen
        simp only [hb, false_and, false_iff]
        omega

/-- A buffer fresh from `buffer_init` meets the run invariant with the empty history. -/
theorem ByteRunInv.init {c base : ℕ} {block : List UInt8} (buf : BufferT) (hc : 2 ≤ c)
    (hc' : c < 2147483648) (hblock : block.length = c) :
    ByteRunInv c [] (bufferInit (some (base, block)) buf c).2 where
  wf := wf_bufferInit buf (by omega) hc' hblock
  capacity_eq := rfl
  conserved := by simp [toList_bufferInit]
  read_eq_neg_one := by simp

/-- **The bytewise read path is a queue exactly below the last cell.** On a buffer initialised
with capacity `c`, a run of writes and bytewise reads is that of a queue of bytes after each of its
steps if and only if none of its reads takes a stored byte from the last cell.

**Proof sketch.** Below the last cell the run invariant is kept (`ByteRunInv.step_of_ne_read`,
`ByteRunInv.step_read`). A read of a stored byte from the last cell leaves the read index equal to
the capacity. -/
theorem byteFifo_iff_readsBelowLast {c base : ℕ} {block : List UInt8} (buf : BufferT) (hc : 2 ≤ c)
    (hc' : c < 2147483648) (hblock : block.length = c) (ops : List BufferOp) :
    (∀ ops', ops' <+: ops →
        bufferMachine.Holds (ByteFifo c) (bufferInit (some (base, block)) buf c).2 ops') ↔
      bufferMachine.Guarded ReadsBelowLast (bufferInit (some (base, block)) buf c).2 ops := by
  apply holds_iff_guarded (P := ByteRunInv c) (ByteRunInv.init buf hc hc' hblock)
  · intro tr buf op hinv hg
    by_cases hop : op = .read
    · subst hop
      exact hinv.step_read (hg rfl)
    · exact hinv.step_of_ne_read hop
  · exact fun tr buf hinv => hinv.byteFifo
  · rintro tr buf op buf' o hinv hs hQ rfl hne
    cases hl : (buf.ring hinv.wf).toList with
    | nil =>
      have hsize : (buf.ring hinv.wf).size = 0 := by
        rw [← RingBuffer.length_toList, hl, List.length_nil]
      exact absurd ((buf.ring hinv.wf).size_eq_zero_iff.mp hsize) hne
    | cons b bs =>
      simp only [bufferMachine, bufferRead_of_cons hinv.wf hl, Option.map_some, Option.some.injEq,
        Prod.mk.injEq] at hs
      obtain ⟨rfl, rfl⟩ := hs
      rw [hinv.capacity_eq]
      exact hQ.readIndex_lt

/-- Two bytes through a buffer of two cells, one at a time, are a queue up to the second read. -/
theorem byteFifo_two_cells :
    (∀ ops', ops' <+: [BufferOp.write 7, .read, .write 8] →
        bufferMachine.Holds (ByteFifo 2) (bufferInit (some (0, [0, 0])) ⟨0, [], 0, 0, 0⟩ 2).2
          ops') ↔
      bufferMachine.Guarded ReadsBelowLast (bufferInit (some (0, [0, 0])) ⟨0, [], 0, 0, 0⟩ 2).2
        [BufferOp.write 7, .read, .write 8] :=
  byteFifo_iff_readsBelowLast ⟨0, [], 0, 0, 0⟩ (by decide) (by decide) rfl _

/-- The second read of a stored byte from a buffer of two cells leaves the read index out of
range; after one more write the next read is outside the block. -/
theorem not_byteFifo_second_read :
    (∃ tr buf, bufferMachine.exec (bufferInit (some (0, [0, 0])) ⟨0, [], 0, 0, 0⟩ 2).2
        [.write 7, .read, .write 8, .read] = some (tr, buf) ∧ ¬ ByteFifo 2 tr buf) ∧
      bufferMachine.exec (bufferInit (some (0, [0, 0])) ⟨0, [], 0, 0, 0⟩ 2).2
        [.write 7, .read, .write 8, .read, .write 9, .read] = none := by
  refine ⟨⟨_, _, rfl, fun hfifo => ?_⟩, by decide⟩
  exact absurd hfifo.readIndex_lt (by decide)

end SensorCollector
