import SensorCollector.Node.Transmit

set_option relaxedAutoImplicit false
set_option autoImplicit false

/-!
# The transmit buffer is linear

`endTransmission` hands the MAC the start of the block and not the first stored byte. That is right
as long as the transmit buffer is linear: the stored bytes start at the start of the block, and no
write goes around its end.

The results are about all sequences of operations on the data path, also those in which an
operation on the receive buffer leaves its block. What it does there is undefined, so the runs below
go on from any contents of the receive buffer and with any result. It is assumed that it does not
write to the transmit buffer.

## Main definitions

* `SensorCollector.NodeRun` — a run of this kind.
* `SensorCollector.LinearTx` — the transmit buffer is linear.

## Main results

* `SensorCollector.transmitInv_of_nodeRun` — what an undefined operation leaves keeps the invariant.
* `SensorCollector.linearTx_of_nodeRun` — the transmit buffer is linear in every run.
-/

namespace SensorCollector

open EventMachine

/-! ## Runs that go on after an undefined operation -/

/-- What an undefined operation can leave: any receive buffer, and any result. -/
def StraysRx (node : Node) (_op : NodeOp) (_out : NodeOut) (node' : Node) : Prop :=
  ∃ rxBuffer, node' = node.withBase { node.base with rxBuffer := rxBuffer }

/-- A run of a node that goes on after undefined operations, with its history. -/
abbrev NodeRun (node₀ : Node) (tr : List NodeStep) (node : Node) : Prop :=
  StrayRun nodeMachine StraysRx node₀ tr node

/-- An undefined operation leaves the transmit buffer as it is. -/
theorem StraysRx.txBuffer_eq {node node' : Node} {op : NodeOp} {out : NodeOut}
    (h : StraysRx node op out node') : node'.base.txBuffer = node.base.txBuffer := by
  obtain ⟨rxBuffer, rfl⟩ := h
  rw [Node.base_withBase]

/-! ## The invariant -/

/-- The bytes accepted since the last flush: those that the writes have reported as written. -/
abbrev acceptedSinceFlush (tr : List NodeStep) : List UInt8 := sinceFlush writtenPart tr

/-- The transmit buffer of a node is linear after the history `tr`. -/
structure LinearTx (tr : List NodeStep) (node : Node) : Prop where
  /-- The stored bytes start at the start of the block. -/
  readIndex_eq : node.base.txBuffer.readIndex = 0
  /-- The fill index counts the bytes accepted since the last flush. -/
  fillIndex_eq : node.base.txBuffer.fillIndex = (acceptedSinceFlush tr).length
  /-- One cell of the block stays free. -/
  fillIndex_le : node.base.txBuffer.fillIndex ≤ mtu - 1
  /-- Up to the fill index the block holds these bytes, in order. -/
  bytes_eq : node.base.txBuffer.buffer.take node.base.txBuffer.fillIndex = acceptedSinceFlush tr
  /-- No write is wrapped. -/
  linear : ∀ wSize, ¬ node.base.txBuffer.WritesWrapped wSize
  /-- The pointer of a data request is that of the block, where the message starts. -/
  msdu_eq : ∀ address status, (node.endTransmission address status).1.msdu.p =
    some (acceptedSinceFlush tr ++
      node.base.txBuffer.buffer.drop (acceptedSinceFlush tr).length)

/-- A bulk write to a linear transmit buffer copies one segment, if it copies anything. -/
theorem LinearTx.bufferWriteMultiple_eq_copy {tr : List NodeStep} {node : Node}
    (h : LinearTx tr node) (srcArr : List UInt8) (wSize : ℕ) :
    bufferWriteMultiple node.base.txBuffer srcArr wSize = some (0, node.base.txBuffer) ∨
      ∃ n, bufferWriteMultiple node.base.txBuffer srcArr wSize =
        (memcpy node.base.txBuffer.buffer node.base.txBuffer.fillIndex srcArr 0 n).map fun bytes =>
          (n, { node.base.txBuffer with
            buffer := bytes
            fillIndex :=
              sizeT (node.base.txBuffer.fillIndex + n) % node.base.txBuffer.capacity }) :=
  bufferWriteMultiple_of_not_wrapped (h.linear wSize) srcArr

/-- The run invariant makes the transmit buffer linear.

**Proof sketch.** With the read index at the start, the fill index is the number of stored bytes,
and the stored bytes are the first ones of the block. -/
theorem TransmitInv.linearTx {tr : List NodeStep} {node : Node} (h : TransmitInv tr node) :
    LinearTx tr node := by
  set ring := node.base.txBuffer.ring h.wf with hring
  have hlt := ring.size_lt_capacity
  have hcap : ring.capacity = mtu := (BufferT.capacity_ring h.wf).trans h.capacity_eq
  have hsize : ring.size = node.base.txBuffer.fillIndex := by
    rw [hring, BufferT.size_ring h.wf, h.readIndex_eq, if_pos (Nat.zero_le _), Nat.sub_zero]
  have hfill : node.base.txBuffer.fillIndex = (acceptedSinceFlush tr).length := by
    rw [acceptedSinceFlush, ← h.written, storedBytes_eq h.wf, RingBuffer.length_toList, hsize]
  have hbytes : node.base.txBuffer.buffer.take node.base.txBuffer.fillIndex =
      acceptedSinceFlush tr := by
    rw [acceptedSinceFlush, ← h.written, BufferT.storedBytes, h.readIndex_eq, List.rotate_zero,
      bufferGetSize_eq h.wf, hsize]
  refine ⟨h.readIndex_eq, hfill, by omega, hbytes,
    fun wSize => not_writesWrapped_of_readIndex h.wf h.readIndex_eq wSize, ?_⟩
  intro address status
  have hp : (node.endTransmission address status).1.msdu.p = some node.base.txBuffer.buffer := by
    rw [Node.endTransmission_eq]
    rfl
  rw [hp, ← hfill]
  conv_rhs => rw [← hbytes, List.take_append_drop]

/-- An operation that is undefined is not one on the transmit buffer. -/
theorem not_isWrite_of_step_eq_none {node : Node} {op : NodeOp} (h : node.base.txBuffer.Wf)
    (hs : nodeMachine.step node op = none) : ¬ op.IsWrite ∧ ¬ op.IsFlush := by
  have hnone : ¬ (op.IsWrite ∨ op.IsFlush) := by
    intro hop
    obtain ⟨node', out, hs'⟩ := step_defined h hop
    rw [hs] at hs'
    cases hs'
  exact not_or.mp hnone

/-- The run invariant holds in every run. -/
theorem transmitInv_of_nodeRun {node₀ node : Node} {tr : List NodeStep}
    (h₀ : TransmitInv [] node₀) (hrun : NodeRun node₀ tr node) : TransmitInv tr node := by
  refine hrun.invariant h₀ ?_ ?_
  · intro tr node op node' out h hs
    exact h.step hs
  · intro tr node op node' out h hs hstray
    obtain ⟨hwrite, hflush⟩ := not_isWrite_of_step_eq_none h.wf hs
    exact h.idle hwrite hflush hstray.txBuffer_eq

/-- **The transmit buffer is linear in every run.** A new node can take every sequence of
operations, and however it does so, its transmit buffer is linear afterwards.

**Proof sketch.** The run invariant says that the stored bytes start at the start of the block and
are those accepted since the last flush. It is kept by the operations that are defined, and the
others are not about the transmit buffer (`transmitInv_of_nodeRun`). -/
theorem linearTx_of_nodeRun {node₀ : Node} {txBase : ℕ} {txBytes : List UInt8}
    {rxBlock : Option (ℕ × List UInt8)} {raw : FifteenDotFour} {dev : Bool}
    (htx : txBytes.length = mtu)
    (hbase : node₀.base = .construct rxBlock (some (txBase, txBytes)) raw dev)
    (ops : List NodeOp) :
    (∃ tr node, NodeRun node₀ tr node ∧ tr.map Transition.event = ops) ∧
      ∀ tr node, NodeRun node₀ tr node → tr.map Transition.event = ops → LinearTx tr node :=
  ⟨StrayRun.exists (fun node _ => ⟨.done, _, node.base.rxBuffer, rfl⟩) node₀ ops,
    fun _ _ hrun _ => (transmitInv_of_nodeRun (TransmitInv.init htx hbase) hrun).linearTx⟩

/-- On a device, with writes before and after a read and a flush. -/
theorem linearTx_of_nodeRun_device :
    (∃ tr node, NodeRun (.device sampleDevice) tr node ∧ tr.map Transition.event =
        [.write 7, .readBuf [0, 0] 2 le_rfl, .flush, .writeBuf [8, 9] 2 le_rfl]) ∧
      ∀ tr node, NodeRun (.device sampleDevice) tr node → tr.map Transition.event =
        [.write 7, .readBuf [0, 0] 2 le_rfl, .flush, .writeBuf [8, 9] 2 le_rfl] →
        LinearTx tr node :=
  linearTx_of_nodeRun List.length_replicate
    (show (Node.device sampleDevice).base = _ from rfl) _

end SensorCollector
