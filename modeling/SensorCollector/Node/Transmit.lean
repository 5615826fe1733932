import SensorCollector.Node.Defs

set_option relaxedAutoImplicit false
set_option autoImplicit false

/-!
# The transmit path

A node under any operations on its data path. The transmit buffer is written at its end and emptied
at its start only, so it is linear: the bytes written since it was emptied last stand at the start
of its block, where a data request takes them from.

The size of the message is kept in eight bits. So a data request carries what was written exactly
if that is less than 256 bytes.

## Main definitions

* `SensorCollector.NodeOp.offered`, `SensorCollector.writtenPart` — the bytes an operation offers to
  the transmit buffer, and those it reports as written.
* `SensorCollector.TransmitInv` — the transmit buffer is linear.

## Main results

* `SensorCollector.node_step_tx` — what an operation does with the transmit buffer.
* `SensorCollector.transmitInv_of_exec` — the transmit buffer is linear in every run.
* `SensorCollector.msdu_eq_written_iff` — when a data request carries what was written.
-/

namespace SensorCollector

open EventMachine

/-! ## Operations and the transmit buffer -/

/-- The bytes an operation offers to the transmit buffer. -/
def NodeOp.offered : NodeOp → List UInt8
  | .write wByte => [wByte]
  | .writeBuf userBuf size _ => userBuf.take size
  | _ => []

/-- The operation writes. -/
def NodeOp.IsWrite : NodeOp → Prop
  | .write _ => True
  | .writeBuf _ _ _ => True
  | _ => False

/-- The operation empties the transmit buffer. -/
def NodeOp.IsFlush : NodeOp → Prop
  | .flush => True
  | .beginTransmission _ => True
  | _ => False

instance : DecidablePred NodeOp.IsFlush := fun op => by
  cases op <;> unfold NodeOp.IsFlush <;> infer_instance

/-- The bytes a step reports as written: as many of the offered ones as it returns. -/
def writtenPart (t : NodeStep) : List UInt8 :=
  match t.out with
  | .written n => t.event.offered.take n
  | _ => []

/-- The bytes that the steps after the last flush contribute, where each step contributes `f`. -/
def sinceFlush (f : NodeStep → List UInt8) (tr : List NodeStep) : List UInt8 :=
  tr.foldl (fun bytes t => if t.event.IsFlush then [] else bytes ++ f t) []

/-- An operation that does not write offers nothing. -/
theorem offered_of_not_isWrite {op : NodeOp} (h : ¬ op.IsWrite) : op.offered = [] := by
  cases op <;> first | rfl | exact absurd trivial h

/-- A step that is offered nothing writes nothing. -/
theorem writtenPart_of_offered {t : NodeStep} (h : t.event.offered = []) : writtenPart t = [] := by
  unfold writtenPart
  split
  · rw [h, List.take_nil]
  · rfl

/-- One more step adds its contribution, or starts again. -/
theorem sinceFlush_concat (f : NodeStep → List UInt8) (tr : List NodeStep) (t : NodeStep) :
    sinceFlush f (tr ++ [t]) = if t.event.IsFlush then [] else sinceFlush f tr ++ f t := by
  rw [sinceFlush, List.foldl_append]
  rfl

/-- After a flush and steps without one, all these steps contribute. -/
theorem sinceFlush_append {f : NodeStep → List UInt8} {tr₁ tr₂ : List NodeStep} {t : NodeStep}
    (ht : t.event.IsFlush) (htr : ∀ u ∈ tr₂, ¬ u.event.IsFlush) :
    sinceFlush f (tr₁ ++ t :: tr₂) = tr₂.flatMap f := by
  induction tr₂ using List.reverseRecOn with
  | nil => rw [sinceFlush_concat, if_pos ht, List.flatMap_nil]
  | append_singleton tr₂ u ih =>
    have hu : ¬ u.event.IsFlush := htr u (by simp)
    rw [← List.cons_append, ← List.append_assoc, sinceFlush_concat, if_neg hu,
      ih fun v hv => htr v (by simp [hv]), List.flatMap_append, List.flatMap_singleton]

/-- **What an operation does with the transmit buffer**: a write appends what fits and reports how
much that is; `flush` and `beginTransmission` empty it; the other operations leave it as it is. -/
theorem node_step_tx {node node' : Node} {op : NodeOp} {out : NodeOut}
    (h : node.base.txBuffer.Wf) (hs : nodeMachine.step node op = some (node', out)) :
    (op.IsWrite ∧ ¬ op.IsFlush ∧
      node'.base.txBuffer =
        node.base.txBuffer.withRing ((node.base.txBuffer.ring h).offer op.offered) ∧
      writtenPart ⟨node, op, out, node'⟩ = (node.base.txBuffer.ring h).accepted op.offered) ∨
    (¬ op.IsWrite ∧ op.IsFlush ∧ bufferFlush node.base.txBuffer = some node'.base.txBuffer ∧
      writtenPart ⟨node, op, out, node'⟩ = []) ∨
    (¬ op.IsWrite ∧ ¬ op.IsFlush ∧ node'.base.txBuffer = node.base.txBuffer ∧
      writtenPart ⟨node, op, out, node'⟩ = []) := by
  cases op with
  | write wByte =>
    left
    simp only [nodeMachine, Node.write, FifteenDotFour.write, bufferWrite_eq h, Option.map_some,
      Option.some.injEq, Prod.mk.injEq] at hs
    obtain ⟨rfl, rfl⟩ := hs
    refine ⟨trivial, id, ?_, (node.base.txBuffer.ring h).take_length_accepted [wByte]⟩
    rw [Node.base_withBase]
    rfl
  | writeBuf userBuf size hsize =>
    left
    have hlen : ((node.base.txBuffer.ring h).accepted (userBuf.take size)).length =
        min size (node.base.txBuffer.ring h).vacant := by
      rw [RingBuffer.length_accepted, List.length_take_of_le hsize]
    have hsrc : min size (node.base.txBuffer.ring h).vacant ≤ userBuf.length := by omega
    simp only [nodeMachine, Node.writeBuf, FifteenDotFour.writeBuf, bufferWriteMultiple_eq h hsrc,
      Option.map_some, Option.some.injEq, Prod.mk.injEq, ← hlen] at hs
    obtain ⟨rfl, rfl⟩ := hs
    refine ⟨trivial, id, ?_, (node.base.txBuffer.ring h).take_length_accepted _⟩
    rw [Node.base_withBase]
    rfl
  | read | readBuf =>
    right; right
    simp only [nodeMachine, Node.read, Node.readBuf, FifteenDotFour.read, FifteenDotFour.readBuf,
      Option.map_map, Option.map_eq_some_iff] at hs
    obtain ⟨r, -, heq⟩ := hs
    obtain ⟨rfl, rfl⟩ := Prod.mk.inj heq
    simp [NodeOp.IsWrite, NodeOp.IsFlush, writtenPart]
  | peek =>
    right; right
    simp only [nodeMachine, Option.map_eq_some_iff] at hs
    obtain ⟨r, -, heq⟩ := hs
    obtain ⟨rfl, rfl⟩ := Prod.mk.inj heq
    simp [NodeOp.IsWrite, NodeOp.IsFlush, writtenPart]
  | available | endTransmission =>
    right; right
    obtain ⟨rfl, rfl⟩ := Prod.mk.inj (Option.some.inj hs)
    simp [NodeOp.IsWrite, NodeOp.IsFlush, writtenPart]
  | flush | beginTransmission =>
    right; left
    simp only [nodeMachine, Node.flush, Node.beginTransmission_eq_map,
      FifteenDotFour.beginTransmission, FifteenDotFour.flush, Option.map_map,
      Option.map_eq_some_iff] at hs
    obtain ⟨buf, hbuf, heq⟩ := hs
    obtain ⟨rfl, rfl⟩ := Prod.mk.inj heq
    simp [NodeOp.IsWrite, NodeOp.IsFlush, writtenPart, hbuf]
  | dataInd =>
    right; right
    simp only [nodeMachine, Node.dataIndCB_eq_map, Option.map_map, Option.map_eq_some_iff] at hs
    obtain ⟨base', hbase, heq⟩ := hs
    obtain ⟨rfl, rfl⟩ := Prod.mk.inj heq
    simp [NodeOp.IsWrite, NodeOp.IsFlush, writtenPart, FifteenDotFour.txBuffer_dataIndCB hbase]

/-- A write and a flush leave the receive buffer as it is. -/
theorem rxBuffer_of_step {node node' : Node} {op : NodeOp} {out : NodeOut}
    (hop : op.IsWrite ∨ op.IsFlush) (hs : nodeMachine.step node op = some (node', out)) :
    node'.base.rxBuffer = node.base.rxBuffer := by
  cases op with
  | write | writeBuf =>
    simp only [nodeMachine, Node.write, Node.writeBuf, FifteenDotFour.write,
      FifteenDotFour.writeBuf, Option.map_map, Option.map_eq_some_iff] at hs
    obtain ⟨r, -, heq⟩ := hs
    obtain ⟨rfl, -⟩ := Prod.mk.inj heq
    simp
  | flush | beginTransmission =>
    simp only [nodeMachine, Node.flush, Node.beginTransmission_eq_map,
      FifteenDotFour.beginTransmission, FifteenDotFour.flush, Option.map_map,
      Option.map_eq_some_iff] at hs
    obtain ⟨buf, -, heq⟩ := hs
    obtain ⟨rfl, -⟩ := Prod.mk.inj heq
    simp
  | read | readBuf | peek | available | dataInd | endTransmission =>
    rcases hop with hop | hop <;> exact hop.elim

/-- A run of writes and flushes leaves the receive buffer as it is. -/
theorem rxBuffer_of_exec {node node' : Node} {ops : List NodeOp} {tr : List NodeStep}
    (hops : ∀ op ∈ ops, op.IsWrite ∨ op.IsFlush)
    (hx : nodeMachine.exec node ops = some (tr, node')) :
    node'.base.rxBuffer = node.base.rxBuffer := by
  refine nodeMachine.exec_induction
    (P := fun ops _ node' => (∀ op ∈ ops, op.IsWrite ∨ op.IsFlush) →
      node'.base.rxBuffer = node.base.rxBuffer) (fun _ => rfl) ?_ hx hops
  intro ops _ node₁ op node₂ _ _ ih hs hops
  rw [rxBuffer_of_step (hops op (by simp)) hs]
  exact ih fun op' hop' => hops op' (by simp [hop'])

/-- An operation keeps the transmit buffer well-formed. -/
theorem wf_txBuffer_of_step {node node' : Node} {op : NodeOp} {out : NodeOut}
    (h : node.base.txBuffer.Wf) (hs : nodeMachine.step node op = some (node', out)) :
    node'.base.txBuffer.Wf := by
  rcases node_step_tx h hs with ⟨-, -, hbuf, -⟩ | ⟨-, -, hbuf, -⟩ | ⟨-, -, hbuf, -⟩
  · rw [hbuf]
    exact BufferT.wf_withRing h (by rw [RingBuffer.capacity_offer, BufferT.capacity_ring])
  · rw [bufferFlush_eq h, Option.some.injEq] at hbuf
    rw [← hbuf]
    exact BufferT.wf_withRing h List.length_replicate
  · rw [hbuf]
    exact h

/-! ## The runs -/

/-- The run invariant: the transmit buffer is linear. It holds what the writes since the last flush
reported as written, which is the beginning of what they were given. -/
structure TransmitInv (tr : List NodeStep) (node : Node) : Prop where
  /-- The transmit buffer is well-formed. -/
  wf : node.base.txBuffer.Wf
  /-- The transmit buffer has the capacity of the constructor. -/
  capacity_eq : node.base.txBuffer.capacity = mtu
  /-- The stored bytes start at the start of the block. -/
  readIndex_eq : node.base.txBuffer.readIndex = 0
  /-- The stored bytes are those that were reported as written. -/
  written : node.base.txBuffer.storedBytes = sinceFlush writtenPart tr
  /-- The stored bytes are the first ones of those that the writes were given. -/
  offered : node.base.txBuffer.storedBytes =
    (sinceFlush (fun t => t.event.offered) tr).take (mtu - 1)

/-- A new node satisfies the run invariant. -/
theorem TransmitInv.init {node : Node} {txBase : ℕ} {txBytes : List UInt8}
    {rxBlock : Option (ℕ × List UInt8)} {raw : FifteenDotFour} {dev : Bool}
    (htx : txBytes.length = mtu)
    (hbase : node.base = .construct rxBlock (some (txBase, txBytes)) raw dev) :
    TransmitInv [] node := by
  have hwf : node.base.txBuffer.Wf := by
    rw [hbase]
    exact wf_bufferInit raw.txBuffer (by decide) (by decide) htx
  have hstored : node.base.txBuffer.storedBytes = [] := by
    rw [hbase]
    simp [FifteenDotFour.construct, BufferT.storedBytes, bufferInit, bufferGetSize, sizeT, int32]
  exact ⟨hwf, by rw [hbase]; rfl, by rw [hbase]; rfl, hstored, hstored⟩

/-- The run invariant concerns the transmit buffer only. -/
theorem TransmitInv.of_txBuffer_eq {tr : List NodeStep} {node node' : Node}
    (h : TransmitInv tr node) (hbuf : node'.base.txBuffer = node.base.txBuffer) :
    TransmitInv tr node' :=
  ⟨hbuf ▸ h.wf, hbuf ▸ h.capacity_eq, hbuf ▸ h.readIndex_eq, hbuf ▸ h.written, hbuf ▸ h.offered⟩

/-- A step that neither writes nor flushes and leaves the transmit buffer as it is keeps the run
invariant. -/
theorem TransmitInv.idle {tr : List NodeStep} {node node' : Node} {op : NodeOp} {out : NodeOut}
    (h : TransmitInv tr node) (hwrite : ¬ op.IsWrite) (hflush : ¬ op.IsFlush)
    (hbuf : node'.base.txBuffer = node.base.txBuffer) :
    TransmitInv (tr ++ [⟨node, op, out, node'⟩]) node' := by
  have h' := h.of_txBuffer_eq hbuf
  have hoffered := offered_of_not_isWrite hwrite
  refine ⟨h'.wf, h'.capacity_eq, h'.readIndex_eq, ?_, ?_⟩
  · rw [sinceFlush_concat, if_neg hflush, writtenPart_of_offered hoffered, List.append_nil,
      h'.written]
  · rw [sinceFlush_concat, if_neg hflush, hoffered, List.append_nil, h'.offered]

/-- Every step keeps the run invariant.

**Proof sketch.** By the three cases of `node_step_tx`. After a write there is room for as many
bytes as are missing to `mtu - 1`. -/
theorem TransmitInv.step {tr : List NodeStep} {node node' : Node} {op : NodeOp} {out : NodeOut}
    (h : TransmitInv tr node) (hs : nodeMachine.step node op = some (node', out)) :
    TransmitInv (tr ++ [⟨node, op, out, node'⟩]) node' := by
  have hstored := storedBytes_eq h.wf
  have hwf := wf_txBuffer_of_step h.wf hs
  rcases node_step_tx h.wf hs with ⟨-, hflush, hbuf, hwritten⟩ | ⟨-, hflush, hbuf, -⟩ |
    ⟨hwrite, hflush, hbuf, -⟩
  · set ring := node.base.txBuffer.ring h.wf with hring
    have hcap : (ring.offer op.offered).capacity = node.base.txBuffer.capacity := by
      rw [RingBuffer.capacity_offer, hring, BufferT.capacity_ring]
    have hstored' : node'.base.txBuffer.storedBytes =
        node.base.txBuffer.storedBytes ++ ring.accepted op.offered := by
      rw [hbuf, storedBytes_withRing h.wf hcap, RingBuffer.toList_offer, hstored]
    have hvacant : ring.vacant = mtu - 1 - node.base.txBuffer.storedBytes.length := by
      rw [hstored, RingBuffer.length_toList, RingBuffer.vacant, hring, BufferT.capacity_ring,
        h.capacity_eq]
    refine ⟨hwf, by rw [hbuf]; exact h.capacity_eq, by rw [hbuf]; exact h.readIndex_eq, ?_, ?_⟩
    · rw [sinceFlush_concat, if_neg hflush, ← h.written, hwritten, hstored']
    · have hlen := congrArg List.length h.offered
      rw [List.length_take] at hlen
      have hroom : mtu - 1 - node.base.txBuffer.storedBytes.length =
          mtu - 1 - (sinceFlush (fun t => t.event.offered) tr).length := by omega
      rw [sinceFlush_concat, if_neg hflush, List.take_append, ← h.offered, hstored',
        RingBuffer.accepted, hvacant, hroom]
  · rw [bufferFlush_eq h.wf, Option.some.injEq] at hbuf
    have hempty : node'.base.txBuffer.storedBytes = [] := by
      rw [← hbuf, storedBytes_withRing h.wf, RingBuffer.toList_empty]
      exact List.length_replicate
    refine ⟨hwf, by rw [← hbuf]; exact h.capacity_eq, by rw [← hbuf]; rfl, ?_, ?_⟩
    · rw [sinceFlush_concat, if_pos hflush, hempty]
    · rw [sinceFlush_concat, if_pos hflush, hempty, List.take_nil]
  · exact h.idle hwrite hflush hbuf

/-- **The transmit buffer is linear in every run** of a new node. -/
theorem transmitInv_of_exec {node₀ node : Node} {ops : List NodeOp} {tr : List NodeStep}
    (h₀ : TransmitInv [] node₀) (hx : nodeMachine.exec node₀ ops = some (tr, node)) :
    TransmitInv tr node := by
  refine nodeMachine.exec_induction (P := fun _ tr node => TransmitInv tr node) h₀ ?_ hx
  intro _ tr node op node' out _ h hs
  exact h.step hs

/-- A write is defined, and so is the start of a transmission. -/
theorem step_defined {node : Node} {op : NodeOp} (h : node.base.txBuffer.Wf)
    (hop : op.IsWrite ∨ op.IsFlush) :
    ∃ node' out, nodeMachine.step node op = some (node', out) := by
  cases op with
  | write wByte =>
    simp [nodeMachine, Node.write, FifteenDotFour.write, bufferWrite_eq h]
  | writeBuf userBuf size hsize =>
    have hsrc : min size (node.base.txBuffer.ring h).vacant ≤ userBuf.length := by omega
    simp [nodeMachine, Node.writeBuf, FifteenDotFour.writeBuf, bufferWriteMultiple_eq h hsrc]
  | flush =>
    simp [nodeMachine, Node.flush, FifteenDotFour.flush, bufferFlush_eq h]
  | beginTransmission address =>
    simp [nodeMachine, Node.beginTransmission_eq_map, FifteenDotFour.beginTransmission,
      FifteenDotFour.flush, bufferFlush_eq h]
  | read | readBuf | peek | available | dataInd | endTransmission =>
    rcases hop with hop | hop <;> exact hop.elim

/-! ## Data requests -/

/-- The payload of a data request: as many of the stored bytes as eight bits leave. -/
theorem msdu_endTransmission {tr : List NodeStep} {node : Node} (h : TransmitInv tr node)
    (address : UInt16) (status : ApiMacStatus) :
    (node.endTransmission address status).1.msdu.bytes =
      node.base.txBuffer.storedBytes.take (node.base.txBuffer.storedBytes.length % 256) := by
  set n := node.base.txBuffer.storedBytes.length with hn
  have hsize : n = (node.base.txBuffer.ring h.wf).size := by
    rw [hn, storedBytes_eq h.wf, RingBuffer.length_toList]
  have hlt := (node.base.txBuffer.ring h.wf).size_lt_capacity
  have hseg := (node.base.txBuffer.ring h.wf).take_drop_cells (n := n % 256)
    (by have := Nat.mod_le n 256; omega)
    (by
      have := Nat.mod_le n 256
      change node.base.txBuffer.readIndex + n % 256 ≤ _
      rw [h.readIndex_eq]
      omega)
  have hlen : (UInt16.ofNat (uint8 (bufferGetSize node.base.txBuffer))).toNat = n % 256 := by
    have : n % 256 < UInt16.size := (Nat.mod_lt n (by decide)).trans (by decide)
    rw [bufferGetSize_eq h.wf, ← hsize, uint8, UInt16.toNat_ofNat_of_lt' this]
  rw [Node.endTransmission_eq, FifteenDotFour.endTransmission, ApiMacSData.bytes, hlen,
    storedBytes_eq h.wf, ← hseg]
  change _ = (node.base.txBuffer.buffer.drop node.base.txBuffer.readIndex).take _
  rw [h.readIndex_eq]
  rfl

/-- **A data request carries what was written exactly if that is less than 256 bytes.** -/
theorem msdu_eq_sinceFlush_iff {tr : List NodeStep} {node : Node} (h : TransmitInv tr node)
    (address : UInt16) (status : ApiMacStatus) :
    (node.endTransmission address status).1.msdu.bytes = sinceFlush writtenPart tr ↔
      (sinceFlush (fun t => t.event.offered) tr).length < 256 := by
  have hlen := congrArg List.length h.offered
  rw [List.length_take, mtu] at hlen
  rw [msdu_endTransmission h, ← h.written]
  constructor
  · intro heq
    have := congrArg List.length heq
    rw [List.length_take] at this
    omega
  · intro hlt
    rw [Nat.mod_eq_of_lt (by omega), List.take_length]

/-- The steps of a transmission up to its data request: they are defined, and what they write is the
first `mtu - 1` bytes of what they are given. -/
theorem exec_transmission {tr₀ : List NodeStep} {node : Node} (h : TransmitInv tr₀ node)
    (address : UInt16) {writes : List NodeOp} (hwrites : ∀ op ∈ writes, op.IsWrite) :
    ∃ tr node', nodeMachine.exec node (.beginTransmission address :: writes) = some (tr, node') ∧
      TransmitInv (tr₀ ++ tr) node' ∧ sinceFlush writtenPart (tr₀ ++ tr) = tr.flatMap writtenPart ∧
      sinceFlush (fun t => t.event.offered) (tr₀ ++ tr) = writes.flatMap NodeOp.offered := by
  have hg : nodeMachine.Guarded (fun _ op => op.IsWrite ∨ op.IsFlush) node
      (.beginTransmission address :: writes) := by
    intro es' op hp _ _ _
    rcases List.mem_cons.mp (hp.subset (List.mem_append_right es' (List.mem_singleton_self op)))
      with rfl | hop
    · exact Or.inr trivial
    · exact Or.inl (hwrites op hop)
  obtain ⟨tr, node', hx, hinv⟩ := hg.holds (P := fun tr node => TransmitInv (tr₀ ++ tr) node)
    (by rwa [List.append_nil]) (by
      intro tr node op hinv hop
      obtain ⟨node', out, hs⟩ := step_defined hinv.wf hop
      exact ⟨node', out, hs, by rw [← List.append_assoc]; exact hinv.step hs⟩)
  obtain ⟨_, out, tr', -, hx', rfl⟩ := (nodeMachine.exec_cons_eq_some).mp hx
  have hevents := nodeMachine.map_event_of_exec hx'
  have hflush : ∀ u ∈ tr', ¬ u.event.IsFlush := by
    intro u hu hfl
    have hw := hwrites u.event (hevents ▸ List.mem_map_of_mem hu)
    cases hop : u.event <;> rw [hop] at hw hfl <;> first | exact hw | exact hfl
  refine ⟨_, node', hx, hinv, ?_, ?_⟩
  · rw [List.flatMap_cons, writtenPart_of_offered rfl, List.nil_append]
    exact sinceFlush_append (by trivial) hflush
  · rw [← hevents, List.flatMap_map]
    exact sinceFlush_append (by trivial) hflush

/-- **A transmission carries what was written exactly if that is less than 256 bytes.** After any
run of a new node, start a transmission and write any bytes in any pieces. The data request then
carries what the writes reported as written, and that is the first `mtu - 1` bytes they were given,
if and only if they were given less than 256 bytes.

**Proof sketch.** The transmit buffer is linear, so the stored bytes are those since the start of
the transmission (`exec_transmission`), and the request carries as many as eight bits leave of them
(`msdu_eq_sinceFlush_iff`). -/
theorem msdu_eq_written_iff {node₀ node : Node} {txBase : ℕ} {txBytes : List UInt8}
    {rxBlock : Option (ℕ × List UInt8)} {raw : FifteenDotFour} {dev : Bool}
    (htx : txBytes.length = mtu)
    (hbase : node₀.base = .construct rxBlock (some (txBase, txBytes)) raw dev)
    {ops₀ : List NodeOp} {tr₀ : List NodeStep}
    (hx₀ : nodeMachine.exec node₀ ops₀ = some (tr₀, node)) (address address' : UInt16)
    (status : ApiMacStatus) {writes : List NodeOp} (hwrites : ∀ op ∈ writes, op.IsWrite) :
    nodeMachine.Holds (fun tr node' =>
        (node'.endTransmission address' status).1.msdu.bytes = tr.flatMap writtenPart ∧
        tr.flatMap writtenPart = (writes.flatMap NodeOp.offered).take (mtu - 1)) node
      (.beginTransmission address :: writes) ↔
    (writes.flatMap NodeOp.offered).length < 256 := by
  have hinv₀ : TransmitInv tr₀ node := transmitInv_of_exec (TransmitInv.init htx hbase) hx₀
  obtain ⟨tr, node', hx, hinv, hwritten, hoffered⟩ := exec_transmission hinv₀ address hwrites
  have hiff := msdu_eq_sinceFlush_iff hinv address' status
  rw [hwritten, hoffered] at hiff
  have htake : tr.flatMap writtenPart = (writes.flatMap NodeOp.offered).take (mtu - 1) := by
    rw [← hwritten, ← hoffered, ← hinv.written, hinv.offered]
  constructor
  · rintro ⟨tr₁, node₁, hx₁, hmsdu, -⟩
    obtain ⟨rfl, rfl⟩ := Prod.mk.inj (Option.some.inj (hx.symm.trans hx₁))
    exact hiff.mp hmsdu
  · intro hlt
    exact ⟨tr, node', hx, hiff.mpr hlt, htake⟩

/-- On a device, three bytes written in two pieces. -/
theorem msdu_eq_written_iff_two_writes :
    nodeMachine.Holds (fun tr node' =>
        (node'.endTransmission 1 .success).1.msdu.bytes = tr.flatMap writtenPart ∧
        tr.flatMap writtenPart =
          ([NodeOp.write 7, .writeBuf [8, 9] 2 le_rfl].flatMap NodeOp.offered).take (mtu - 1))
      (.device sampleDevice) [.beginTransmission 1, .write 7, .writeBuf [8, 9] 2 le_rfl] ↔
    ([NodeOp.write 7, .writeBuf [8, 9] 2 le_rfl].flatMap NodeOp.offered).length < 256 :=
  msdu_eq_written_iff List.length_replicate (show (Node.device sampleDevice).base = _ from rfl)
    (nodeMachine.exec_nil _) 1 1 .success (by simp [NodeOp.IsWrite])

/-- A message of 256 bytes does not leave as it was written. -/
theorem not_msdu_eq_written_of_256 :
    ∃ tr node, nodeMachine.exec (.device sampleDevice)
        [.beginTransmission 1, .writeBuf (List.replicate 256 7) 256 List.length_replicate.ge] =
          some (tr, node) ∧
      (node.endTransmission 1 .success).1.msdu.bytes ≠ tr.flatMap writtenPart := by
  have hinv₀ : TransmitInv [] (.device sampleDevice) :=
    TransmitInv.init List.length_replicate rfl
  obtain ⟨tr, node, hx, hinv, hwritten, hoffered⟩ := exec_transmission hinv₀ 1
    (fun op hop => show op.IsWrite by
      obtain rfl : op = .writeBuf _ _ List.length_replicate.ge := List.mem_singleton.mp hop
      trivial)
  refine ⟨tr, node, hx, fun hmsdu => ?_⟩
  have hlt := (msdu_eq_sinceFlush_iff hinv 1 .success).mp (by rw [hwritten]; exact hmsdu)
  rw [hoffered, List.flatMap_singleton, NodeOp.offered, List.length_take,
    List.length_replicate] at hlt
  omega

end SensorCollector
