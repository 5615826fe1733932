import SensorCollector.ApiMac
import SensorCollector.Buffer.Spec

set_option relaxedAutoImplicit false
set_option autoImplicit false

/-!
# The class of both nodes

The parent class `FifteenDotFour` of the collector and the device: a receive and a transmit buffer
and the functions an application reads and writes them with. The callback that receives data and
the end of a transmission are written out once for each node in the source, with the same body but
for the PAN; here they are functions of the parent class with the PAN as a parameter.

## Main definitions

* `SensorCollector.FifteenDotFour` — the members of the class, and its constructor.
* `SensorCollector.FifteenDotFour.dataIndCB` — the data indication callback.
* `SensorCollector.FifteenDotFour.endTransmission` — the data request of a transmission.
* `SensorCollector.FifteenDotFour.Wf` — both buffers are well-formed with their capacities.

## Main results

* `SensorCollector.FifteenDotFour.wf_construct` — a constructed node is well-formed.
* `SensorCollector.FifteenDotFour.dataIndCB_eq` — what the callback does on a well-formed node.
-/

namespace SensorCollector

/-! ## Configuration -/

/-- `MTU`. -/
def mtu : ℕ := 512

/-- `CONFIG_CHANNEL_PAGE`. -/
def configChannelPage : UInt8 := 9

/-- `CONFIG_PHY_ID`. -/
def configPhyId : UInt8 := 1

/-- `CONFIG_MAC_BEACON_ORDER`. -/
def configMacBeaconOrder : UInt8 := 15

/-! ## The members -/

/-- The members of the class `FifteenDotFour`. -/
structure FifteenDotFour where
  rxBuffer : BufferT
  txBuffer : BufferT
  mDevice : Bool
  deriving DecidableEq, Repr

namespace FifteenDotFour

/-- The constructor, on the memory `raw` of a new object, given what the two calls of `malloc`
returned. -/
def construct (rxBlock txBlock : Option (ℕ × List UInt8)) (raw : FifteenDotFour) (dev : Bool) :
    FifteenDotFour where
  rxBuffer := (bufferInit rxBlock raw.rxBuffer (mtu * 2)).2
  txBuffer := (bufferInit txBlock raw.txBuffer mtu).2
  mDevice := dev

/-- `available`: the number of bytes that can be read. -/
def available (node : FifteenDotFour) : ℤ := int32 (bufferGetSize node.rxBuffer)

/-- `read(void)`: the next byte, or `-1`. -/
def read (node : FifteenDotFour) : Option (ℤ × FifteenDotFour) :=
  (bufferRead node.rxBuffer).map fun r => (r.1, { node with rxBuffer := r.2 })

/-- `read(user_buf, size)`: the number of bytes read, and the user's array afterwards. -/
def readBuf (node : FifteenDotFour) (userBuf : List UInt8) (size : ℕ) :
    Option (ℕ × List UInt8 × FifteenDotFour) :=
  (bufferReadMultiple userBuf node.rxBuffer size).map fun r =>
    (r.1, r.2.1, { node with rxBuffer := r.2.2 })

/-- `write(w_byte)`: the number of bytes written. -/
def write (node : FifteenDotFour) (wByte : UInt8) : Option (ℕ × FifteenDotFour) :=
  (bufferWrite node.txBuffer wByte).map fun r => (r.1, { node with txBuffer := r.2 })

/-- `write(user_buf, size)`: the number of bytes written. -/
def writeBuf (node : FifteenDotFour) (userBuf : List UInt8) (size : ℕ) :
    Option (ℕ × FifteenDotFour) :=
  (bufferWriteMultiple node.txBuffer userBuf size).map fun r =>
    (r.1, { node with txBuffer := r.2 })

/-- `peek`: the next byte, without removing it. -/
def peek (node : FifteenDotFour) : Option UInt8 := bufferPeek node.rxBuffer

/-- `flush`: empty the transmit buffer. -/
def flush (node : FifteenDotFour) : Option FifteenDotFour :=
  (bufferFlush node.txBuffer).map fun buf => { node with txBuffer := buf }

/-- `beginTransmission`, the same for both nodes: the address is not used yet. -/
def beginTransmission (node : FifteenDotFour) (_address : UInt16) :
    Option (Bool × FifteenDotFour) :=
  node.flush.map fun node => (true, node)

/-- `endTransmission`, for a node that sends to the PAN `dstPanId`, directly or indirectly: the
data request, and the result given the status the MAC returned for it. The size of the message is
kept in a `uint8_t`, and the payload starts at the start of the block. -/
def endTransmission (node : FifteenDotFour) (dstPanId : UInt16) (indirect : Bool)
    (address : UInt16) (status : ApiMacStatus) : ApiMacMcpsDataReq × Bool :=
  let msgSize := uint8 (bufferGetSize node.txBuffer)
  ({ dstAddr := ⟨address, .short⟩
     dstPanId := dstPanId
     srcAddrMode := .short
     msduHandle := 0
     txOptions := ⟨true, indirect⟩
     msdu := ⟨some node.txBuffer.buffer, UInt16.ofNat msgSize⟩ },
    decide (status = .success))

/-- `dataIndCB`, for a node in the PAN `panID`. -/
def dataIndCB (node : FifteenDotFour) (panID : UInt16) (pDataInd : Option ApiMacMcpsDataInd) :
    Option FifteenDotFour :=
  match pDataInd with
  | none => some node
  | some ind =>
    match ind.msdu.p with
    | none => some node
    | some p =>
      if ind.msdu.len > 0 then
        if ind.dstPanId = panID then
          (bufferWriteMultiple node.rxBuffer p ind.msdu.len.toNat).map fun r =>
            { node with rxBuffer := r.2 }
        else some node
      else some node

/-- A payload for the PAN of the node is written to the receive buffer. -/
theorem dataIndCB_of_passes {node : FifteenDotFour} {panID : UInt16} {ind : ApiMacMcpsDataInd}
    {p : List UInt8} (hp : ind.msdu.p = some p) (hlen : 0 < ind.msdu.len)
    (hpan : ind.dstPanId = panID) :
    node.dataIndCB panID (some ind) =
      (bufferWriteMultiple node.rxBuffer p ind.msdu.len.toNat).map fun r =>
        { node with rxBuffer := r.2 } := by
  obtain ⟨dstPanId, p', len⟩ := ind
  obtain rfl : p' = some p := hp
  rw [dataIndCB]
  exact (if_pos hlen).trans (if_pos hpan)

/-! ## Well-formed nodes -/

/-- Both buffers are well-formed, with the capacities of the constructor. -/
structure Wf (node : FifteenDotFour) : Prop where
  rx : node.rxBuffer.Wf
  rx_capacity : node.rxBuffer.capacity = mtu * 2
  tx : node.txBuffer.Wf
  tx_capacity : node.txBuffer.capacity = mtu

/-- A node is well-formed after its construction, if its two blocks were allocated. -/
theorem wf_construct {rxBase txBase : ℕ} {rxBytes txBytes : List UInt8} (raw : FifteenDotFour)
    (dev : Bool) (hrx : rxBytes.length = mtu * 2) (htx : txBytes.length = mtu) :
    (construct (some (rxBase, rxBytes)) (some (txBase, txBytes)) raw dev).Wf where
  rx := wf_bufferInit raw.rxBuffer (by decide) (by decide) hrx
  rx_capacity := rfl
  tx := wf_bufferInit raw.txBuffer (by decide) (by decide) htx
  tx_capacity := rfl

/-- A node as the constructor leaves it when both blocks were allocated. -/
def New (node : FifteenDotFour) : Prop :=
  ∃ rxBase rxBytes txBase txBytes raw dev, rxBytes.length = mtu * 2 ∧ txBytes.length = mtu ∧
    node = construct (some (rxBase, rxBytes)) (some (txBase, txBytes)) raw dev

/-- A new node is well-formed. -/
theorem New.wf {node : FifteenDotFour} (h : node.New) : node.Wf := by
  obtain ⟨_, _, _, _, raw, dev, hrx, htx, rfl⟩ := h
  exact wf_construct raw dev hrx htx

/-- The bytes of a data indication that concern a node in the PAN `panID`: the payload, if the
frame was sent to that PAN. -/
def indBytes (panID : UInt16) : Option ApiMacMcpsDataInd → List UInt8
  | none => []
  | some ind => if ind.dstPanId = panID then ind.msdu.bytes else []

/-- The receive buffer with its ring replaced. -/
def withRx (node : FifteenDotFour) (r : RingBuffer UInt8) : FifteenDotFour :=
  { node with rxBuffer := node.rxBuffer.withRing r }

/-- **The data indication callback appends the payload of the frames for its PAN** to the receive
buffer, as far as it fits, and ignores other frames. -/
theorem dataIndCB_eq {node : FifteenDotFour} (h : node.rxBuffer.Wf) (panID : UInt16)
    {pDataInd : Option ApiMacMcpsDataInd} (hind : ∀ ind ∈ pDataInd, ind.msdu.Valid) :
    node.dataIndCB panID pDataInd =
      some (node.withRx ((node.rxBuffer.ring h).offer (indBytes panID pDataInd))) := by
  have hself : ∀ xs : List UInt8, xs = [] →
      some node = some (node.withRx ((node.rxBuffer.ring h).offer xs)) := by
    rintro xs rfl
    rw [RingBuffer.offer_eq_self _ (by simp [RingBuffer.accepted])]
    rfl
  unfold dataIndCB
  cases pDataInd with
  | none => exact hself _ rfl
  | some ind =>
    have hvalid := hind ind rfl
    obtain ⟨dstPanId, p, len⟩ := ind
    cases p with
    | none => exact hself _ (by simp [indBytes, ApiMacSData.bytes])
    | some p =>
      have hle : len.toNat ≤ p.length := hvalid p rfl
      simp only
      split_ifs with hlen hpan
      · rw [bufferWriteMultiple_eq h (by omega)]
        simp [indBytes, hpan, ApiMacSData.bytes, withRx]
      · exact hself _ (by simp [indBytes, hpan])
      · have h0 : len = 0 := by
          by_contra hne
          exact hlen (UInt16.pos_iff_ne_zero.mpr hne)
        exact hself _ (by simp [indBytes, ApiMacSData.bytes, h0])

/-- The data indication callback does nothing, or writes to the receive buffer. -/
theorem dataIndCB_cases {node node' : FifteenDotFour} {panID : UInt16}
    {pDataInd : Option ApiMacMcpsDataInd} (h : node.dataIndCB panID pDataInd = some node') :
    node' = node ∨ ∃ p len n buf, bufferWriteMultiple node.rxBuffer p len = some (n, buf) ∧
      node' = { node with rxBuffer := buf } := by
  unfold dataIndCB at h
  split at h
  · exact Or.inl (Option.some.inj h).symm
  · split at h
    · exact Or.inl (Option.some.inj h).symm
    · split_ifs at h
      · obtain ⟨⟨n, buf⟩, hbuf, rfl⟩ := Option.map_eq_some_iff.mp h
        exact Or.inr ⟨_, _, n, buf, hbuf, rfl⟩
      · exact Or.inl (Option.some.inj h).symm
      · exact Or.inl (Option.some.inj h).symm

/-- The data indication callback leaves the transmit buffer as it is. -/
theorem txBuffer_dataIndCB {node node' : FifteenDotFour} {panID : UInt16}
    {pDataInd : Option ApiMacMcpsDataInd} (h : node.dataIndCB panID pDataInd = some node') :
    node'.txBuffer = node.txBuffer := by
  rcases dataIndCB_cases h with rfl | ⟨_, _, _, _, -, rfl⟩
  · rfl
  · rfl

/-- The data indication callback keeps the receive buffer well-formed, whatever the indication. -/
theorem wf_rxBuffer_dataIndCB {node node' : FifteenDotFour} {panID : UInt16}
    {pDataInd : Option ApiMacMcpsDataInd} (hwf : node.rxBuffer.Wf)
    (h : node.dataIndCB panID pDataInd = some node') :
    node'.rxBuffer.Wf ∧ node'.rxBuffer.capacity = node.rxBuffer.capacity := by
  rcases dataIndCB_cases h with rfl | ⟨_, _, _, _, hbuf, rfl⟩
  · exact ⟨hwf, rfl⟩
  · exact wf_of_bufferWriteMultiple hwf hbuf

end FifteenDotFour

end SensorCollector
