import SensorCollector.Node.Defs

set_option relaxedAutoImplicit false
set_option autoImplicit false

/-!
# The receive path

A node under any interleaving of data indications and bulk reads. What the reads have returned and
what is still stored should make up what was accepted of the frames, in order.

A bulk read keeps the number of stored bytes in eight bits and copies one segment of the block. So
a run is free of loss exactly as long as no read meets 256 stored bytes or more and asks for more
than that number modulo 256, and none runs over the end of the block.

## Main definitions

* `SensorCollector.ReceiveOp`, `SensorCollector.receiveMachine` — the operations and their runs.
* `SensorCollector.LossFree` — what a run does when the receive path is a queue.
* `SensorCollector.ReadInOnePiece` — the condition on a read.

## Main results

* `SensorCollector.lossFree_iff_readInOnePiece` — a run is that of a queue if and only if each of
  its reads meets the condition.
-/

namespace SensorCollector

open EventMachine

/-- The stored bytes of a node: those that can be read. -/
def Node.stored (node : Node) : List UInt8 := node.base.rxBuffer.storedBytes

/-! ## The runs -/

/-- The operations on the receive path. An indication has a valid payload, and a read comes with an
array that has room for as many bytes as are asked for. -/
inductive ReceiveOp
  /-- `dataIndCB`. -/
  | dataInd (pDataInd : Option ApiMacMcpsDataInd) (hvalid : ∀ ind ∈ pDataInd, ind.msdu.Valid)
  /-- `read(user_buf, size)`. -/
  | read (userBuf : List UInt8) (size : ℕ) (hsize : size ≤ userBuf.length)

/-- The receive path as a machine. The output of a read is the number it returns and the user's
array afterwards. -/
def receiveMachine : EventMachine Node ReceiveOp (Option (ℕ × List UInt8)) where
  step node
    | .dataInd pDataInd _ => (node.dataIndCB pDataInd).map fun node' => (node', none)
    | .read userBuf size _ =>
      (node.readBuf userBuf size).map fun r => (r.2.2, some (r.1, r.2.1))

/-- A step of a run. -/
abbrev ReceiveStep := Transition Node ReceiveOp (Option (ℕ × List UInt8))

/-- The part of a frame that is accepted: as much of its payload as there is room for, if the frame
was sent to the PAN of the node. -/
def acceptedPart (t : ReceiveStep) : List UInt8 :=
  match t.event with
  | .dataInd pDataInd _ =>
    (FifteenDotFour.indBytes t.pre.getPanID pDataInd).take (mtu * 2 - 1 - t.pre.stored.length)
  | .read _ _ _ => []

/-- The bytes a read has placed in the user's array: as many as it returns. -/
def deliveredPart (t : ReceiveStep) : List UInt8 :=
  match t.out with
  | some (n, userBuf) => userBuf.take n
  | none => []

/-- The history `tr` of a node, which ends in `node`, is that of a queue of bytes. Asked of every
prefix of a run, the last field is about every read of the run. -/
structure LossFree (tr : List ReceiveStep) (node : Node) : Prop where
  /-- What was delivered and what is stored make up what was accepted. -/
  fifo : tr.flatMap deliveredPart ++ node.stored = tr.flatMap acceptedPart
  /-- The bytes that can be read are those accepted and not delivered. -/
  available : node.available =
    ((tr.flatMap acceptedPart).length : ℤ) - (tr.flatMap deliveredPart).length
  /-- A read returns as many bytes as it is asked for, or all that are stored. -/
  read : ∀ tr' t, tr = tr' ++ [t] → ∀ userBuf size hsize, t.event = .read userBuf size hsize →
    ∃ userBuf', t.out = some (min size t.pre.stored.length, userBuf')

/-- A read meets less than 256 stored bytes or asks for at most that number modulo 256, and the
bytes it is to take do not run over the end of the block. -/
def ReadInOnePiece (node : Node) : ReceiveOp → Prop
  | .dataInd _ _ => True
  | .read _ size _ =>
    (node.stored.length < 256 ∨ size ≤ node.stored.length % 256) ∧
      node.base.rxBuffer.readIndex + min size node.stored.length ≤ mtu * 2

/-- The run invariant: the receive buffer is well-formed and the history is that of a queue. -/
structure ReceiveInv (tr : List ReceiveStep) (node : Node) : Prop where
  /-- The receive buffer is well-formed. -/
  wf : node.base.rxBuffer.Wf
  /-- The receive buffer has the capacity of the constructor. -/
  capacity_eq : node.base.rxBuffer.capacity = mtu * 2
  /-- What was delivered and what is stored make up what was accepted. -/
  fifo : tr.flatMap deliveredPart ++ node.stored = tr.flatMap acceptedPart
  /-- What the last read returned. -/
  read : ∀ tr' t, tr = tr' ++ [t] → ∀ userBuf size hsize, t.event = .read userBuf size hsize →
    ∃ userBuf', t.out = some (min size t.pre.stored.length, userBuf')

/-! ## One step -/

/-- The stored bytes of a node whose receive ring has been replaced. -/
theorem stored_withRx {node : Node} (h : node.base.rxBuffer.Wf) {r : RingBuffer UInt8}
    (hr : r.capacity = node.base.rxBuffer.capacity) :
    (node.withBase (node.base.withRx r)).stored = r.toList := by
  rw [Node.stored, Node.base_withBase, FifteenDotFour.withRx, storedBytes_withRing h hr]

/-- The number of bytes that can be read is the number of stored bytes. -/
theorem available_eq {node : Node} (h : node.base.rxBuffer.Wf) :
    node.available = node.stored.length := by
  have hc := h.capacity_lt
  have hs := (node.base.rxBuffer.ring h).size_lt_capacity
  rw [BufferT.capacity_ring h] at hs
  rw [Node.stored, storedBytes_eq h, RingBuffer.length_toList, Node.available,
    FifteenDotFour.available, bufferGetSize_eq h, int32]
  split_ifs <;> omega

/-- A data indication stores what it accepts behind what was stored. -/
theorem receive_step_dataInd {node : Node} (h : node.base.rxBuffer.Wf)
    (hcap : node.base.rxBuffer.capacity = mtu * 2) (pDataInd : Option ApiMacMcpsDataInd)
    (hvalid : ∀ ind ∈ pDataInd, ind.msdu.Valid) :
    ∃ node', receiveMachine.step node (.dataInd pDataInd hvalid) = some (node', none) ∧
      node'.base.rxBuffer.Wf ∧ node'.base.rxBuffer.capacity = mtu * 2 ∧
      node'.stored =
        node.stored ++ acceptedPart ⟨node, .dataInd pDataInd hvalid, none, node'⟩ := by
  set ring := node.base.rxBuffer.ring h with hring
  set xs := FifteenDotFour.indBytes node.getPanID pDataInd with hxs
  have hr : (ring.offer xs).capacity = node.base.rxBuffer.capacity := by
    rw [RingBuffer.capacity_offer, hring, BufferT.capacity_ring]
  refine ⟨node.withBase (node.base.withRx (ring.offer xs)), ?_, ?_, ?_, ?_⟩
  · simp only [receiveMachine, Node.dataIndCB_eq_map,
      FifteenDotFour.dataIndCB_eq h node.getPanID hvalid, Option.map_some, hring, hxs]
  · rw [Node.base_withBase]
    exact BufferT.wf_withRing h hr
  · rw [Node.base_withBase]
    exact hcap
  · have hvacant : ring.vacant = mtu * 2 - 1 - node.stored.length := by
      rw [Node.stored, storedBytes_eq h, RingBuffer.length_toList, RingBuffer.vacant, hring,
        BufferT.capacity_ring, hcap]
    rw [stored_withRx h hr, RingBuffer.toList_offer, RingBuffer.accepted, hvacant]
    simp only [acceptedPart, Node.stored, storedBytes_eq h, hring, hxs]

/-- **A bulk read** takes the number of bytes that eight bits leave of the stored ones, if it stays
inside the user's array and inside the block, and is undefined otherwise. -/
theorem readBuf_eq {node : Node} (h : node.base.rxBuffer.Wf)
    (hcap : node.base.rxBuffer.capacity = mtu * 2) (userBuf : List UInt8) (size : ℕ) :
    node.readBuf userBuf size =
      if min size (node.stored.length % 256) ≤ userBuf.length ∧
          node.base.rxBuffer.readIndex + min size (node.stored.length % 256) ≤ mtu * 2 then
        some (min size (node.stored.length % 256),
          userBuf.blit 0 (node.stored.take (min size (node.stored.length % 256))),
          node.withBase (node.base.withRx ((node.base.rxBuffer.ring h).skip
            (min size (node.stored.length % 256)))))
      else none := by
  have hlen : node.stored.length = (node.base.rxBuffer.ring h).size := by
    rw [Node.stored, storedBytes_eq h, RingBuffer.length_toList]
  rw [Node.readBuf, FifteenDotFour.readBuf, hlen]
  by_cases hroom : min size ((node.base.rxBuffer.ring h).size % 256) ≤ userBuf.length
  · rw [bufferReadMultiple_eq h hroom, hcap]
    simp only [hroom, true_and]
    split_ifs
    · rw [Node.stored, storedBytes_eq h]
      rfl
    · rfl
  · rw [bufferReadMultiple_eq_none h.inRange (by rw [bufferGetSize_eq h]; omega),
      if_neg fun hfits => hroom hfits.1]
    rfl

/-- A bulk read into an array that has room for as many bytes as are asked for. -/
theorem receive_step_read {node : Node} (h : node.base.rxBuffer.Wf)
    (hcap : node.base.rxBuffer.capacity = mtu * 2) {userBuf : List UInt8} {size : ℕ}
    (hsize : size ≤ userBuf.length) :
    receiveMachine.step node (.read userBuf size hsize) =
      if node.base.rxBuffer.readIndex + min size (node.stored.length % 256) ≤ mtu * 2 then
        some (node.withBase (node.base.withRx ((node.base.rxBuffer.ring h).skip
            (min size (node.stored.length % 256)))),
          some (min size (node.stored.length % 256),
            userBuf.blit 0 (node.stored.take (min size (node.stored.length % 256)))))
      else none := by
  have hroom : min size (node.stored.length % 256) ≤ userBuf.length := by omega
  simp only [receiveMachine, readBuf_eq h hcap, hroom, true_and]
  split_ifs
  · rfl
  · rfl

/-! ## Runs -/

/-- A new node meets the run invariant with the empty history. -/
theorem ReceiveInv.init {node : Node} {rxBase : ℕ} {rxBytes : List UInt8}
    {txBlock : Option (ℕ × List UInt8)} {raw : FifteenDotFour} {dev : Bool}
    (hrx : rxBytes.length = mtu * 2)
    (hbase : node.base = .construct (some (rxBase, rxBytes)) txBlock raw dev) :
    ReceiveInv [] node := by
  have hwf : node.base.rxBuffer.Wf := by
    rw [hbase]
    exact wf_bufferInit raw.rxBuffer (by decide) (by decide) hrx
  refine ⟨hwf, by rw [hbase]; rfl, ?_, by simp⟩
  have hstored : node.stored = [] := by
    rw [Node.stored, hbase]
    simp [FifteenDotFour.construct, BufferT.storedBytes, bufferInit, bufferGetSize, sizeT, int32]
  rw [hstored]
  rfl

/-- The run invariant makes the history that of a queue. -/
theorem ReceiveInv.lossFree {tr : List ReceiveStep} {node : Node} (h : ReceiveInv tr node) :
    LossFree tr node where
  fifo := h.fifo
  available := by
    have hlen := congrArg List.length h.fifo
    rw [List.length_append] at hlen
    rw [available_eq h.wf]
    omega
  read := h.read

/-- A data indication keeps the run invariant. -/
theorem ReceiveInv.step_dataInd {tr : List ReceiveStep} {node : Node} (h : ReceiveInv tr node)
    (pDataInd : Option ApiMacMcpsDataInd) (hvalid : ∀ ind ∈ pDataInd, ind.msdu.Valid) :
    ∃ node' o, receiveMachine.step node (.dataInd pDataInd hvalid) = some (node', o) ∧
      ReceiveInv (tr ++ [⟨node, .dataInd pDataInd hvalid, o, node'⟩]) node' := by
  obtain ⟨node', hs, hwf, hcap, hstored⟩ :=
    receive_step_dataInd h.wf h.capacity_eq pDataInd hvalid
  refine ⟨node', none, hs, hwf, hcap, ?_, ?_⟩
  · rw [List.flatMap_append, List.flatMap_append, ← h.fifo, hstored]
    simp [deliveredPart]
  · intro tr' t heq userBuf size hsize hread
    obtain ⟨-, ht⟩ := List.append_inj' heq rfl
    obtain rfl := List.singleton_inj.mp ht
    cases hread

/-- A read in one piece keeps the run invariant: it takes the first stored bytes.

**Proof sketch.** Under the condition the number that eight bits leave is the number of bytes asked
for, or of all stored ones, and the segment lies inside the block. -/
theorem ReceiveInv.step_read {tr : List ReceiveStep} {node : Node} (h : ReceiveInv tr node)
    {userBuf : List UInt8} {size : ℕ} (hsize : size ≤ userBuf.length)
    (hpiece : ReadInOnePiece node (.read userBuf size hsize)) :
    ∃ node' o, receiveMachine.step node (.read userBuf size hsize) = some (node', o) ∧
      ReceiveInv (tr ++ [⟨node, .read userBuf size hsize, o, node'⟩]) node' := by
  obtain ⟨hbyte, hin⟩ := hpiece
  have hn : min size (node.stored.length % 256) = min size node.stored.length := by omega
  have hcap : ((node.base.rxBuffer.ring h.wf).skip (min size node.stored.length)).capacity =
      node.base.rxBuffer.capacity := BufferT.capacity_ring h.wf
  have hs := receive_step_read h.wf h.capacity_eq hsize
  rw [hn, if_pos hin] at hs
  refine ⟨_, _, hs, ?_, ?_, ?_, ?_⟩
  · rw [Node.base_withBase]
    exact BufferT.wf_withRing h.wf hcap
  · rw [Node.base_withBase]
    exact h.capacity_eq
  · have hlen : (node.stored.take (min size node.stored.length)).length =
        min size node.stored.length := List.length_take_of_le (Nat.min_le_right _ _)
    have hblit := List.take_blit_zero userBuf (node.stored.take (min size node.stored.length))
    rw [hlen] at hblit
    rw [stored_withRx h.wf hcap, RingBuffer.toList_skip, ← storedBytes_eq h.wf,
      List.flatMap_append, List.flatMap_append, ← h.fifo]
    simp only [List.flatMap_singleton, deliveredPart, acceptedPart, hblit, List.append_nil,
      List.append_assoc]
    exact congrArg (tr.flatMap deliveredPart ++ ·) (List.take_append_drop _ _)
  · intro tr' t heq userBuf' size' hsize' hread
    obtain ⟨-, ht⟩ := List.append_inj' heq rfl
    obtain rfl := List.singleton_inj.mp ht
    cases hread
    exact ⟨_, rfl⟩

/-- A read after which the history is that of a queue was one in one piece. -/
theorem readInOnePiece_of_lossFree {tr : List ReceiveStep} {node node' : Node}
    (h : ReceiveInv tr node) {op : ReceiveOp} {o : Option (ℕ × List UInt8)}
    (hs : receiveMachine.step node op = some (node', o))
    (hfree : LossFree (tr ++ [⟨node, op, o, node'⟩]) node') : ReadInOnePiece node op := by
  cases op with
  | dataInd pDataInd hvalid => trivial
  | read userBuf size hsize =>
    rw [receive_step_read h.wf h.capacity_eq hsize] at hs
    split_ifs at hs with hin
    obtain ⟨-, rfl⟩ := Prod.mk.inj (Option.some.inj hs)
    obtain ⟨userBuf', hout⟩ := hfree.read tr _ rfl userBuf size hsize rfl
    have hn : min size (node.stored.length % 256) = min size node.stored.length :=
      (Prod.mk.inj (Option.some.inj hout)).1
    constructor
    · omega
    · rw [← hn]
      exact hin

/-- **The receive path is loss-free exactly if every read is one in one piece.** On a new node, a
run of data indications and bulk reads is that of a queue of bytes after each of its steps if and
only if each read meets less than 256 stored bytes, or asks for at most that number modulo 256, and
does not run over the end of the block.

**Proof sketch.** The run invariant is kept by indications and by reads that meet the condition
(`ReceiveInv.step_dataInd`, `ReceiveInv.step_read`), and a read after which the history is that of a
queue met it (`readInOnePiece_of_lossFree`). -/
theorem lossFree_iff_readInOnePiece {node : Node} {rxBase : ℕ} {rxBytes : List UInt8}
    {txBlock : Option (ℕ × List UInt8)} {raw : FifteenDotFour} {dev : Bool}
    (hrx : rxBytes.length = mtu * 2)
    (hbase : node.base = .construct (some (rxBase, rxBytes)) txBlock raw dev)
    (ops : List ReceiveOp) :
    (∀ ops', ops' <+: ops → receiveMachine.Holds LossFree node ops') ↔
      receiveMachine.Guarded ReadInOnePiece node ops := by
  apply holds_iff_guarded (P := ReceiveInv) (ReceiveInv.init hrx hbase)
  · intro tr node op h hpiece
    cases op with
    | dataInd pDataInd hvalid => exact h.step_dataInd pDataInd hvalid
    | read userBuf size hsize => exact h.step_read hsize hpiece
  · exact fun tr node h => h.lossFree
  · exact fun tr node op node' o h hs hfree => readInOnePiece_of_lossFree h hs hfree

/-- A frame of `n` bytes for the PAN `0xFAFA`. -/
def sampleFrame (n : ℕ) : ApiMacMcpsDataInd := ⟨0xFAFA, ⟨some (List.replicate n 7), UInt16.ofNat n⟩⟩

/-- The length of the frame is the number of its bytes. -/
theorem valid_sampleFrame {n : ℕ} (hn : n < UInt16.size) :
    ∀ ind ∈ some (sampleFrame n), ind.msdu.Valid := by
  intro ind hind block hblock
  obtain rfl : sampleFrame n = ind := by simpa using hind
  obtain rfl : List.replicate n 7 = block := by simpa [sampleFrame] using hblock
  rw [List.length_replicate, sampleFrame, UInt16.toNat_ofNat_of_lt' hn]

/-- The payload of the frame, for a node in the PAN `0xFAFA`. -/
theorem indBytes_sampleFrame {n : ℕ} (hn : n < UInt16.size) :
    FifteenDotFour.indBytes 0xFAFA (some (sampleFrame n)) = List.replicate n 7 := by
  rw [FifteenDotFour.indBytes, if_pos (by rfl), ApiMacSData.bytes, sampleFrame,
    UInt16.toNat_ofNat_of_lt' hn]
  exact List.take_of_length_le List.length_replicate.le

/-- A new collector stores a frame that there is room for. -/
theorem exists_step_sampleFrame {n : ℕ} (hn : n < mtu * 2)
    (hvalid : ∀ ind ∈ some (sampleFrame n), ind.msdu.Valid) :
    ∃ node', receiveMachine.step (.collector sampleCollector)
        (.dataInd (some (sampleFrame n)) hvalid) = some (node', none) ∧
      node'.base.rxBuffer.Wf ∧ node'.base.rxBuffer.capacity = mtu * 2 ∧
      node'.stored = List.replicate n 7 := by
  have h₀ : ReceiveInv [] (.collector sampleCollector) :=
    ReceiveInv.init List.length_replicate rfl
  obtain ⟨node', hs, hwf, hcap, hstored⟩ :=
    receive_step_dataInd h₀.wf h₀.capacity_eq (some (sampleFrame n)) hvalid
  have hempty : (Node.collector sampleCollector).stored = [] := h₀.fifo
  have haccepted : acceptedPart ⟨.collector sampleCollector, .dataInd (some (sampleFrame n)) hvalid,
      none, node'⟩ = (FifteenDotFour.indBytes 0xFAFA (some (sampleFrame n))).take
        (mtu * 2 - 1 - (Node.collector sampleCollector).stored.length) := rfl
  refine ⟨node', hs, hwf, hcap, ?_⟩
  rw [hstored, hempty, List.nil_append, haccepted,
    indBytes_sampleFrame (hn.trans_le (by decide)), hempty, List.length_nil,
    List.take_of_length_le (by rw [List.length_replicate]; omega)]

/-- A frame of three bytes, read in two pieces. -/
theorem lossFree_iff_readInOnePiece_two_reads :
    (∀ ops', ops' <+: [.dataInd (some (sampleFrame 3)) (valid_sampleFrame (by decide)),
          .read [0, 0] 2 le_rfl, .read [0] 1 le_rfl] →
        receiveMachine.Holds LossFree (.collector sampleCollector) ops') ↔
      receiveMachine.Guarded ReadInOnePiece (.collector sampleCollector)
        [.dataInd (some (sampleFrame 3)) (valid_sampleFrame (by decide)),
          .read [0, 0] 2 le_rfl, .read [0] 1 le_rfl] :=
  lossFree_iff_readInOnePiece List.length_replicate rfl _

/-- After a frame of 256 bytes a read that asks for all of them is not one of a queue. -/
theorem not_lossFree_of_256 :
    ∃ tr node, receiveMachine.exec (.collector sampleCollector)
        [.dataInd (some (sampleFrame 256)) (valid_sampleFrame (by decide)),
          .read (List.replicate 256 0) 256 List.length_replicate.ge] = some (tr, node) ∧
      ¬ LossFree tr node := by
  have h₀ : ReceiveInv [] (.collector sampleCollector) :=
    ReceiveInv.init List.length_replicate rfl
  obtain ⟨node₁, hs₁, hwf, hcap, hstored⟩ :=
    exists_step_sampleFrame (show 256 < mtu * 2 by decide) (valid_sampleFrame (by decide))
  obtain ⟨_, o₁, hs₁', h₁⟩ :=
    h₀.step_dataInd (some (sampleFrame 256)) (valid_sampleFrame (by decide))
  obtain ⟨rfl, rfl⟩ := Prod.mk.inj (Option.some.inj (hs₁.symm.trans hs₁'))
  have hlen : node₁.stored.length = 256 := by rw [hstored, List.length_replicate]
  -- the read finds 256 stored bytes, of which eight bits leave none
  have hs₂ := receive_step_read hwf hcap
    (show 256 ≤ (List.replicate 256 (0 : UInt8)).length from List.length_replicate.ge)
  rw [hlen, if_pos (by have := hwf.read_lt; omega)] at hs₂
  refine ⟨_, _, (receiveMachine.exec_cons_eq_some).mpr ⟨node₁, none, _, hs₁,
    (receiveMachine.exec_cons_eq_some).mpr ⟨_, _, _, hs₂, receiveMachine.exec_nil _, rfl⟩, rfl⟩,
    fun hfree => ?_⟩
  obtain ⟨hbyte, -⟩ := readInOnePiece_of_lossFree h₁ hs₂ hfree
  rw [hlen] at hbyte
  omega

end SensorCollector
