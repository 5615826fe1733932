import SensorCollector.AppTask.Defs
import SensorCollector.Osal.Tasks

set_option relaxedAutoImplicit false
set_option autoImplicit false

/-!
# Messages of the MAC

What the MAC tells the application goes through a message. `MAC_CbackEvent` of `macTask.c` runs in
the task of the MAC: it makes a message of the parameters and sends it. `processIncomingICallMsg` of
`api_mac.c` runs in the task of the application: it fills the structure of the callback from the
message and calls it, and frees what the message points to.

A data indication is in a message of the MAC already, and is passed on as it is. A data confirm and
a scan confirm point to further blocks of the heap. A beacon comes with its payload; the size of
both is computed in eight bits, so that of a long beacon is too small.

## Main definitions

* `SensorCollector.MacCbackEvent`, `SensorCollector.MacCbackMsg` — the messages.
* `SensorCollector.macCbackEvent`, `SensorCollector.MacCbackMsg.posted` — `MAC_CbackEvent`, and the
  message that it sends.
* `SensorCollector.MacCbackEvent.len`, `SensorCollector.MacCbackEvent.copied` — the size of the
  block of a message, and how much is copied to it.
* `SensorCollector.deviceCallback`, `SensorCollector.collectorCallback` — the callback that a
  message leads to.
* `SensorCollector.freeAttached` — the blocks that are freed after the callback.

## Main results

* `SensorCollector.MacCbackEvent.copied_le_iff` — the copy goes beyond the block of a long beacon.
* `SensorCollector.apiMacBuildMsgCapInfo_convert`, `SensorCollector.apiMacConvert_buildMsgCapInfo` —
  capability information is the same on both sides.
-/

namespace SensorCollector

/-! ## Capability information -/

/-- The bits `CAPABLE_PAN_COORD`, `CAPABLE_FFD`, `CAPABLE_MAINS_POWER`, `CAPABLE_RX_ON_IDLE`,
`CAPABLE_SECURITY` and `CAPABLE_ALLOC_ADDR`. -/
def capablePanCoord : UInt8 := 0x01

@[inherit_doc capablePanCoord] def capableFfd : UInt8 := 0x02

@[inherit_doc capablePanCoord] def capableMainsPower : UInt8 := 0x04

@[inherit_doc capablePanCoord] def capableRxOnIdle : UInt8 := 0x08

@[inherit_doc capablePanCoord] def capableSecurity : UInt8 := 0x40

@[inherit_doc capablePanCoord] def capableAllocAddr : UInt8 := 0x80

/-- `ApiMac_buildMsgCapInfo`, for a structure with all bits zero. -/
def apiMacBuildMsgCapInfo (cInfo : UInt8) : ApiMacCapabilityInfo where
  panCoord := cInfo &&& capablePanCoord ≠ 0
  ffd := cInfo &&& capableFfd ≠ 0
  mainsPower := cInfo &&& capableMainsPower ≠ 0
  rxOnWhenIdle := cInfo &&& capableRxOnIdle ≠ 0
  security := cInfo &&& capableSecurity ≠ 0
  allocAddr := cInfo &&& capableAllocAddr ≠ 0

/-- `ApiMac_convertCapabilityInfo`. -/
def apiMacConvertCapabilityInfo (pMsgcapInfo : ApiMacCapabilityInfo) : UInt8 := Id.run do
  let mut capInfo : UInt8 := 0
  if pMsgcapInfo.panCoord then capInfo := capInfo ||| capablePanCoord
  if pMsgcapInfo.ffd then capInfo := capInfo ||| capableFfd
  if pMsgcapInfo.mainsPower then capInfo := capInfo ||| capableMainsPower
  if pMsgcapInfo.rxOnWhenIdle then capInfo := capInfo ||| capableRxOnIdle
  if pMsgcapInfo.security then capInfo := capInfo ||| capableSecurity
  if pMsgcapInfo.allocAddr then capInfo := capInfo ||| capableAllocAddr
  return capInfo

/-- The capability information that the other side builds is the one that was converted. -/
theorem apiMacBuildMsgCapInfo_convert (capInfo : ApiMacCapabilityInfo) :
    apiMacBuildMsgCapInfo (apiMacConvertCapabilityInfo capInfo) = capInfo := by
  obtain ⟨panCoord, ffd, mainsPower, rxOnWhenIdle, security, allocAddr⟩ := capInfo
  cases panCoord <;> cases ffd <;> cases mainsPower <;> cases rxOnWhenIdle <;> cases security <;>
    cases allocAddr <;> decide

/-- A byte comes back with its two reserved bits cleared. -/
theorem apiMacConvert_buildMsgCapInfo (cInfo : UInt8) :
    apiMacConvertCapabilityInfo (apiMacBuildMsgCapInfo cInfo) = cInfo &&& 0xCF := by
  obtain ⟨⟨n, hn⟩⟩ := cInfo
  revert n
  decide +kernel

/-! ## Messages -/

/-- `MAC_BAD_STATE`. -/
def macBadState : UInt8 := 0x19

/-- `MAC_BEACON_STANDARD`. -/
def macBeaconStandard : UInt8 := 0

/-- `MAC_BEACON_ENHANCED`. -/
def macBeaconEnhanced : UInt8 := 1

/-- The events of `macCbackEvent_t`, with the parameters that the callbacks of the two classes read,
and with the pointers to other blocks. -/
inductive MacCbackEvent
  | associateInd (deviceAddress : ApiMacSAddrExt) (capabilityInformation : UInt8)
  | associateCnf
  | disassociateInd (deviceAddress : ApiMacSAddrExt)
  | disassociateCnf
  /-- With the number of addresses and of bytes that come with a standard beacon. -/
  | beaconNotifyInd (beaconType : UInt8) (pPanDesc : ApiMacPanDesc) (pendAddrSpec sduLength : UInt8)
  | orphanInd
  /-- With the list of results, which is either of two members of a union. -/
  | scanCnf (result : Option Addr)
  | startCnf
  | syncLossInd
  | pollCnf
  | commStatusInd
  | dataCnf (pDataReq : Option Addr)
  | dataInd (dstPanId : UInt16) (msdu : ApiMacSData)
  | purgeCnf
  | pwrOnCnf
  | pollInd
  | wsAsyncCnf
  | wsAsyncInd
  deriving DecidableEq

/-- A message of the MAC to the application. -/
structure MacCbackMsg where
  /-- `hdr.status`. -/
  status : UInt8
  event : MacCbackEvent
  deriving DecidableEq

/-- What a block of the heap holds. -/
inductive MacBody
  | cback (msg : MacCbackMsg)
  /-- Anything else that belongs to the MAC: a data request, a list of results. -/
  | data
  deriving DecidableEq

/-- The block that a message points to. -/
def MacCbackEvent.attached : MacCbackEvent → List Addr
  | .scanCnf result => result.toList
  | .dataCnf pDataReq => pDataReq.toList
  | _ => []

/-- The list of results that a scan confirm points to. -/
def MacCbackEvent.results : MacCbackEvent → List Addr
  | .scanCnf result => result.toList
  | _ => []

/-- The message is in a block of the MAC already, which is passed on. -/
def MacCbackEvent.inBlock : MacCbackEvent → Bool
  | .dataInd _ _ | .wsAsyncInd => true
  | _ => false

/-! ## From the MAC to the queue -/

/-- `sizeof(macPanDesc_t)`, on the target: pointers have four bytes. -/
def sizeofMacPanDesc : ℕ := 36

/-- `msacbackSizeTable`, on the target. -/
def msacbackSizeTable : MacCbackEvent → ℕ
  | .associateInd _ _ => 22
  | .associateCnf => 16
  | .disassociateInd _ => 22
  | .disassociateCnf => 14
  | .beaconNotifyInd _ _ _ _ => 24
  | .orphanInd => 21
  | .scanCnf _ => 28
  | .startCnf => 2
  | .syncLossInd => 18
  | .pollCnf => 3
  | .commStatusInd => 36
  | .dataCnf _ => 24
  | .purgeCnf => 3
  | .pwrOnCnf => 2
  | .pollInd => 16
  | .wsAsyncCnf => 2
  -- these two are in a block already, and their size is not used
  | .dataInd _ _ | .wsAsyncInd => 0

/-- `MAC_PEND_FIELDS_LEN`. -/
def macPendFieldsLen (pendAddrSpec : UInt8) : ℕ :=
  (pendAddrSpec &&& 0x07).toNat * 2 + ((pendAddrSpec &&& 0x70) >>> 4).toNat * 8

/-- `len` of `MAC_CbackEvent`: the size that is asked for, in eight bits. -/
def MacCbackEvent.len (event : MacCbackEvent) : UInt8 :=
  match event with
  | .beaconNotifyInd beaconType _ pendAddrSpec sduLength =>
    if beaconType = macBeaconStandard then
      UInt8.ofNat (msacbackSizeTable event + sizeofMacPanDesc + sduLength.toNat +
        macPendFieldsLen pendAddrSpec)
    else UInt8.ofNat (msacbackSizeTable event + sizeofMacPanDesc)
  | _ => UInt8.ofNat (msacbackSizeTable event)

/-- The bytes that are copied to the block. Of a standard beacon they are the structure, the
descriptor and the payload. -/
def MacCbackEvent.copied (event : MacCbackEvent) : ℕ :=
  match event with
  | .beaconNotifyInd beaconType _ _ sduLength =>
    if beaconType = macBeaconStandard then
      msacbackSizeTable event + sizeofMacPanDesc + sduLength.toNat
    else msacbackSizeTable event + sizeofMacPanDesc
  | event => event.len.toNat

/-- The beacon is a standard one whose size does not fit eight bits. -/
def MacCbackEvent.TooLong : MacCbackEvent → Prop
  | .beaconNotifyInd beaconType _ pendAddrSpec sduLength =>
    beaconType = macBeaconStandard ∧
      256 < 24 + sizeofMacPanDesc + sduLength.toNat + macPendFieldsLen pendAddrSpec
  | _ => False

/-- The number of bytes of the pending addresses. -/
theorem macPendFieldsLen_le (pendAddrSpec : UInt8) : macPendFieldsLen pendAddrSpec ≤ 70 := by
  have hshort : (pendAddrSpec &&& 0x07).toNat ≤ 7 := by
    rw [UInt8.toNat_and]
    exact Nat.and_le_right
  have hext : ((pendAddrSpec &&& 0x70) >>> 4).toNat ≤ 7 := by
    have hmask : (pendAddrSpec &&& 0x70).toNat ≤ 112 := by
      rw [UInt8.toNat_and]
      exact Nat.and_le_right
    rw [UInt8.toNat_shiftRight]
    show (pendAddrSpec &&& 0x70).toNat >>> 4 ≤ 7
    omega
  rw [macPendFieldsLen]
  omega

/-- **The copy goes beyond the block** exactly if the beacon is too long. -/
theorem MacCbackEvent.copied_le_iff (event : MacCbackEvent) :
    event.len = 0 ∨ event.copied ≤ event.len.toNat ↔ ¬ event.TooLong := by
  cases event with
  | beaconNotifyInd beaconType pPanDesc pendAddrSpec sduLength =>
    have hpend := macPendFieldsLen_le pendAddrSpec
    have hsdu := sduLength.toNat_lt
    by_cases htype : beaconType = macBeaconStandard
    · have hzero (n : ℕ) : UInt8.ofNat n = 0 ↔ n % 256 = 0 := by
        rw [← UInt8.toNat_inj, UInt8.toNat_ofNat']
        rfl
      simp only [len, copied, TooLong, msacbackSizeTable, sizeofMacPanDesc, htype, if_true,
        true_and, hzero, UInt8.toNat_ofNat']
      omega
    · simp [len, copied, TooLong, htype, msacbackSizeTable, sizeofMacPanDesc]
  | _ => simp [copied, TooLong]

instance (event : MacCbackEvent) : Decidable event.TooLong :=
  decidable_of_iff (¬ (event.len = 0 ∨ event.copied ≤ event.len.toNat))
    (by rw [event.copied_le_iff, not_not])

/-- Allocate a block for a message and copy the message to it, as far as the allocation returns one.
A copy that goes beyond the block is undefined. -/
def copyMessage (heap : Heap MacBody) (msg : MacCbackMsg) (block : Option Addr) :
    Option (Heap MacBody × Option Addr) :=
  match osalPortMsgAllocate heap msg.event.len.toUInt16 block (.cback msg) with
  | (heap, none) => some (heap, none)
  | (heap, some pMsg) =>
    if msg.event.copied ≤ msg.event.len.toNat then some (heap, some pMsg) else none

/-- The first part of `MAC_CbackEvent`, the `switch`: the heap and the message that is to be sent,
with what the allocations return. For a data indication `pData` is the block it is in; else the
parameters are a variable of the MAC. -/
def cbackMessage (heap : Heap MacBody) (pData : Addr) (msg : MacCbackMsg)
    (block retry : Option Addr) : Option (Heap MacBody × Option Addr) :=
  match msg.event with
  | .beaconNotifyInd beaconType _ _ _ =>
    if beaconType = macBeaconStandard ∨ beaconType = macBeaconEnhanced then
      copyMessage heap msg block
    else some (heap, none)
  | .dataInd _ _ | .wsAsyncInd => some (heap, some pData)
  | .dataCnf (some pDataReq) =>
    (copyMessage heap msg block).bind fun r =>
      match r with
      | (heap, some pMsg) => some (heap, some pMsg)
      | (heap, none) =>
        -- the data request is freed, and then there may be room
        (osalPortMsgDeallocate heap (some pDataReq)).bind fun r =>
          copyMessage r.1 { msg with event := .dataCnf none } retry
  | _ => copyMessage heap msg block

/-- `MAC_CbackEvent`. -/
def macCbackEvent (osal : OsalPort MacBody) (appTaskId : UInt8) (pData : Addr) (msg : MacCbackMsg)
    (block retry : Option Addr) : Option (OsalPort MacBody) := do
  let (heap, pMsg) ← cbackMessage osal.heap pData msg block retry
  match pMsg with
  | none => some { osal with heap := heap }
  | some pMsg =>
    (({ osal with heap := heap } : OsalPort MacBody).msgSend appTaskId (some pMsg)).map Prod.fst

/-- The message that `MAC_CbackEvent` sends, if any. -/
def MacCbackMsg.posted (msg : MacCbackMsg) (block retry : Option Addr) :
    Option MacCbackMsg :=
  match msg.event with
  | .beaconNotifyInd beaconType _ _ _ =>
    if (beaconType = macBeaconStandard ∨ beaconType = macBeaconEnhanced) ∧ msg.event.len ≠ 0 ∧
        block.isSome then
      some msg
    else none
  | .dataInd _ _ | .wsAsyncInd => some msg
  | .dataCnf (some _) =>
    if msg.event.len ≠ 0 ∧ block.isSome then some msg
    else if msg.event.len ≠ 0 ∧ retry.isSome then some { msg with event := .dataCnf none }
    else none
  | _ => if msg.event.len ≠ 0 ∧ block.isSome then some msg else none

/-! ## From the queue to the callback -/

/-- `ApiMac_beaconType_t`, by a cast from the type in the message. -/
def apiMacBeaconType (beaconType : UInt8) : ApiMacBeaconType :=
  if beaconType = macBeaconStandard then .normal else .enhanced

/-- The callback that `processIncomingICallMsg` calls for a message, with the table
`Sensor_macCallbacks` of the device. The table has none for the other events. -/
def deviceCallback (msg : MacCbackMsg) : Option DeviceStep :=
  if msg.status = macBadState then none
  else
    match msg.event with
    | .associateCnf => some (.associateCnf ⟨msg.status⟩)
    | .beaconNotifyInd beaconType pPanDesc _ _ =>
      some (.beaconNotifyInd ⟨apiMacBeaconType beaconType, pPanDesc⟩)
    | .scanCnf _ => some (.scanCnf ⟨msg.status⟩)
    | .pollCnf => some (.pollCnf ⟨msg.status⟩)
    | .dataCnf _ => some (.dataCnf ⟨msg.status⟩)
    | .dataInd dstPanId msdu => some (.dataInd (some ⟨dstPanId, msdu⟩))
    | _ => none

/-- The callback that `processIncomingICallMsg` calls for a message, with the table
`Collector_macCallbacks` of the collector. For the other events the table has none, or one with an
empty body. The associate callback comes with its two locals that are not initialised. -/
def collectorCallback (device : AssociationDevice) (status : ApiMacAssocStatus)
    (msg : MacCbackMsg) : Option CollectorStep :=
  if msg.status = macBadState then none
  else
    match msg.event with
    | .associateInd deviceAddress capabilityInformation =>
      some (.assocInd ⟨deviceAddress, apiMacBuildMsgCapInfo capabilityInformation⟩ device status)
    | .disassociateInd deviceAddress => some (.disassocInd ⟨deviceAddress⟩)
    | .startCnf => some (.startCnf ⟨msg.status⟩)
    | .dataInd dstPanId msdu => some (.dataInd (some ⟨dstPanId, msdu⟩))
    | _ => none

/-- A device is not asked to run `process` by a message. -/
theorem deviceCallback_ne_process (msg : MacCbackMsg) : deviceCallback msg ≠ some .process := by
  obtain ⟨status, event⟩ := msg
  intro h
  cases event <;> simp [deviceCallback] at h

/-- A collector is not asked to run `start` or `process` by a message. -/
theorem collectorCallback_ne (device : AssociationDevice) (status : ApiMacAssocStatus)
    (msg : MacCbackMsg) : collectorCallback device status msg ≠ some .start ∧
      collectorCallback device status msg ≠ some .process := by
  obtain ⟨hdrStatus, event⟩ := msg
  constructor <;>
  · intro h
    cases event <;> simp [collectorCallback] at h

/-- The callback of a node for a message, run: the node and its calls into the MAC. -/
def Node.incoming (device : AssociationDevice) (status : ApiMacAssocStatus) (msg : MacCbackMsg) :
    Node → Option (Node × List MacCall)
  | .collector c =>
    match collectorCallback device status msg with
    | none => some (.collector c, [])
    | some step => (collectorMachine.step c step).map fun r => (.collector r.1, r.2)
  | .device d =>
    match deviceCallback msg with
    | none => some (.device d, [])
    | some step => (deviceMachine.step d step).map fun r => (.device r.1, r.2)

/-- What `processIncomingICallMsg` frees after the callback: the list of results of a scan confirm,
and with `macMsgDeallocate` the data request of a data confirm. -/
def freeAttached (heap : Heap MacBody) (msg : MacCbackMsg) : Option (Heap MacBody) :=
  if msg.status = macBadState then some heap
  else
    match msg.event with
    | .scanCnf (some result) => osalPortFree heap result
    | .dataCnf (some pDataReq) => (osalPortMsgDeallocate heap (some pDataReq)).map Prod.fst
    | _ => some heap

end SensorCollector
