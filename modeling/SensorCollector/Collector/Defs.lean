import SensorCollector.FifteenDotFour
import SensorCollector.Lib.EventMachine
import SensorCollector.Lib.FlagBits
import SensorCollector.Lib.SlotTable

set_option relaxedAutoImplicit false
set_option autoImplicit false

/-!
# The collector

The class `FifteenDotFourCollector`: it starts a network, opens it for association, keeps the
associated devices in a table and answers their association requests.

## Main definitions

* `SensorCollector.AssociationDevice` — an entry of the association table.
* `SensorCollector.FifteenDotFourCollector` — the members of the class, and its constructor.
* `SensorCollector.FifteenDotFourCollector.process` — the branches of `process`.
* `SensorCollector.FifteenDotFourCollector.assocIndCb` — the associate indication callback.
* `SensorCollector.CollectorStep`, `SensorCollector.collectorMachine` — the steps of a collector.
-/

namespace SensorCollector

/-! ## Configuration -/

/-- `CONFIG_MAX_DEVICES`. -/
def configMaxDevices : ℕ := 50

/-- `ASSOC_DEVICE_STARTING_SHORT_ADDR`. -/
def assocDeviceStartingShortAddr : UInt16 := 1

/-- `CSF_INVALID_SHORT_ADDR`. -/
def csfInvalidShortAddr : UInt16 := 0xFFFF

/-- `ASSOC_STATUS_DEAD`. -/
def assocStatusDead : UInt8 := (1 : UInt8) <<< 0

/-- `ASSOC_STATUS_ALIVE`. -/
def assocStatusAlive : UInt8 := (1 : UInt8) <<< 1

/-- `CONFIG_MAC_SUPERFRAME_ORDER`. -/
def configMacSuperframeOrder : UInt8 := 15

/-! ## The members -/

/-- The structure `associationDevice_t`, an entry of the association table. -/
structure AssociationDevice where
  extAddress : ApiMacSAddrExt
  shortAddress : UInt16
  capInfo : ApiMacCapabilityInfo
  rssi : Int8
  status : UInt8
  deriving DecidableEq

/-- An entry with all bytes zero. -/
def AssociationDevice.zero : AssociationDevice :=
  ⟨Vector.replicate _ 0, 0, ⟨false, false, false, false, false, false⟩, 0, 0⟩

/-- An entry of the table that is not in use. -/
def AssociationDevice.Free (device : AssociationDevice) : Prop :=
  device.shortAddress = csfInvalidShortAddr

instance (device : AssociationDevice) : Decidable device.Free :=
  inferInstanceAs (Decidable (_ = _))

/-- The association table. -/
abbrev AssociationTable := SlotTable configMaxDevices AssociationDevice

/-- The members of the class `FifteenDotFourCollector`. -/
structure FifteenDotFourCollector extends FifteenDotFour where
  revents : BitVec 16
  channel : UInt8
  panID : UInt16
  address : ApiMacSAddr
  associationTable : AssociationTable
  numAssocDevices : UInt8

/-- Bit 0 of `revents`. -/
def startBit : ℕ := 0

/-- Bit 1 of `revents`. -/
def openBit : ℕ := 1

/-- `START_EVENT`. -/
def startEvent : BitVec 16 := FlagBits.bit 16 startBit

/-- `OPEN_EVENT`. -/
def openEvent : BitVec 16 := FlagBits.bit 16 openBit

namespace FifteenDotFourCollector

/-- The constructor, given what the two calls of `malloc` returned, the memory of a new object and
its `panID`, which the constructor leaves as it is. -/
def construct (rxBlock txBlock : Option (ℕ × List UInt8)) (raw : FifteenDotFour)
    (panID : UInt16) : FifteenDotFourCollector where
  toFifteenDotFour := FifteenDotFour.construct rxBlock txBlock raw false
  revents := 0
  channel := 0
  panID := panID
  address := ⟨0xABAB, .short⟩
  associationTable :=
    SlotTable.replicate _ { AssociationDevice.zero with shortAddress := csfInvalidShortAddr }
  numAssocDevices := 0

/-- `setPanID`. -/
def setPanID (c : FifteenDotFourCollector) (id : UInt16) : FifteenDotFourCollector :=
  { c with panID := id }

/-- `getPanID`. -/
def getPanID (c : FifteenDotFourCollector) : UInt16 := c.panID

/-! ## Starting the network -/

/-- `start`. -/
def start (c : FifteenDotFourCollector) : FifteenDotFourCollector :=
  { c with revents := c.revents ||| startEvent }

/-- The start request of `process`. -/
def startReq (c : FifteenDotFourCollector) : ApiMacMlmeStartReq where
  startTime := 0
  panId := c.panID
  logicalChannel := c.channel
  channelPage := configChannelPage
  phyID := configPhyId
  beaconOrder := configMacBeaconOrder
  superframeOrder := configMacSuperframeOrder
  panCoordinator := true
  batteryLifeExt := false
  coordRealignment := false
  realignSec := .zero
  mpmParams := ⟨15, 0, 16383⟩
  startFH := false

/-- The branch of `process` for `START_EVENT`. -/
def processStart (c : FifteenDotFourCollector) : FifteenDotFourCollector × List MacCall :=
  if FlagBits.IsSet c.revents startBit then
    ({ c with revents := c.revents &&& ~~~startEvent }, [.mlmeStartReq c.startReq])
  else (c, [])

/-- The branch of `process` for `OPEN_EVENT`. -/
def processOpen (c : FifteenDotFourCollector) : FifteenDotFourCollector × List MacCall :=
  if FlagBits.IsSet c.revents openBit then
    ({ c with revents := c.revents &&& ~~~openEvent }, [.mlmeSetReqBool .associatePermit true])
  else (c, [])

/-- `process`: the two branches in turn, and then a wait for a message if no event is left. -/
def process (c : FifteenDotFourCollector) : FifteenDotFourCollector × List MacCall :=
  let afterStart := c.processStart
  let afterOpen := afterStart.1.processOpen
  (afterOpen.1, afterStart.2 ++ afterOpen.2 ++
    if afterOpen.1.revents = 0 then [.processIncoming] else [])

/-- `startCnfCb`. The status of the confirm is not read. -/
def startCnfCb (c : FifteenDotFourCollector) (_status : ApiMacStatus) : FifteenDotFourCollector :=
  { c with revents := c.revents ||| openEvent }

/-! ## Data -/

/-- `beginTransmission`. -/
def beginTransmission (c : FifteenDotFourCollector) (address : UInt16) :
    Option (Bool × FifteenDotFourCollector) :=
  (c.toFifteenDotFour.beginTransmission address).map fun r =>
    (r.1, { c with toFifteenDotFour := r.2 })

/-- `endTransmission`: to the collector's own PAN, indirectly. -/
def endTransmission (c : FifteenDotFourCollector) (address : UInt16) (status : ApiMacStatus) :
    ApiMacMcpsDataReq × Bool :=
  c.toFifteenDotFour.endTransmission c.panID true address status

/-- `dataIndCB`. -/
def dataIndCB (c : FifteenDotFourCollector) (pDataInd : Option ApiMacMcpsDataInd) :
    Option FifteenDotFourCollector :=
  (c.toFifteenDotFour.dataIndCB c.getPanID pDataInd).map fun node =>
    { c with toFifteenDotFour := node }

/-! ## Association -/

/-- `findDevice`, for valid pointers: whether an entry in use has the extended address, and the
entry that is found, copied over `newDevice`. -/
def findDevice (c : FifteenDotFourCollector) (newDevice : AssociationDevice)
    (addr : ApiMacSAddrExt) : Bool × AssociationDevice :=
  match c.associationTable.find? fun entry =>
      decide (¬ entry.Free) && decide (addr = entry.extAddress) with
  | some entry => (true, entry)
  | none => (false, newDevice)

/-- `createShortAddress`. -/
def createShortAddress (c : FifteenDotFourCollector) (newDevice : AssociationDevice) :
    AssociationDevice :=
  { newDevice with
    shortAddress := c.numAssocDevices.toUInt16 + assocDeviceStartingShortAddr }

/-- The entry `addDevice` makes of an indication. The signal strength is not set. -/
def newEntry (c : FifteenDotFourCollector) (newDevice : AssociationDevice)
    (pData : ApiMacMlmeAssociateInd) : AssociationDevice :=
  { c.createShortAddress { newDevice with extAddress := pData.deviceAddress } with
    capInfo := pData.capabilityInformation, status := assocStatusAlive }

/-- `addDevice`: whether there was a slot for the new entry, the new entry, and the collector
afterwards. A free slot is taken first, then the slot of a device that is dead. -/
def addDevice (c : FifteenDotFourCollector) (newDevice : AssociationDevice)
    (pData : ApiMacMlmeAssociateInd) : Bool × AssociationDevice × FifteenDotFourCollector :=
  let newDevice := c.newEntry newDevice pData
  match c.associationTable.place? (fun entry => decide entry.Free) newDevice with
  | some table => (true, newDevice, { c with associationTable := table })
  | none =>
    match c.associationTable.place? (fun entry => decide (entry.status = assocStatusDead))
        newDevice with
    | some table => (true, newDevice, { c with associationTable := table })
    | none => (false, newDevice, c)

/-- `assocIndCb`: the collector afterwards and the response. The local `device` is not initialised,
and neither is the status of the response, which is set to a refusal when no slot is found. -/
def assocIndCb (c : FifteenDotFourCollector) (device : AssociationDevice)
    (status : ApiMacAssocStatus) (pData : ApiMacMlmeAssociateInd) :
    FifteenDotFourCollector × ApiMacMlmeAssociateRsp := Id.run do
  let mut c := c
  let mut device := device
  let mut status := status
  let found := c.findDevice device pData.deviceAddress
  device := found.2
  if !found.1 then
    let added := c.addDevice device pData
    device := added.2.1
    c := added.2.2
    if added.1 then
      c := { c with numAssocDevices := c.numAssocDevices + 1 }
    else
      status := .panAccessDenied
  -- the source assigns the status once more here, in every case
  status := .success
  return (c, {
    sec := .zero
    deviceAddress := device.extAddress
    assocShortAddress := device.shortAddress
    status := status })

/-- `disassocIndCb`: the body is empty. -/
def disassocIndCb (c : FifteenDotFourCollector) (_pData : ApiMacMlmeDisassociateInd) :
    FifteenDotFourCollector :=
  c

end FifteenDotFourCollector

/-- A collector in the PAN `0xFAFA` that has just been constructed. -/
def sampleCollector : FifteenDotFourCollector :=
  .construct (some (0, List.replicate (mtu * 2) 0)) (some (0, List.replicate mtu 0))
    ⟨⟨0, [], 0, 0, 0⟩, ⟨0, [], 0, 0, 0⟩, false⟩ 0xFAFA

/-! ## The steps of a collector -/

/-- The steps of a collector: what the application calls, and the callbacks of the MAC. The
associate callback comes with its two locals that are not initialised. -/
inductive CollectorStep
  | start
  | process
  | startCnf (status : ApiMacStatus)
  | assocInd (pData : ApiMacMlmeAssociateInd) (device : AssociationDevice)
      (status : ApiMacAssocStatus)
  | disassocInd (pData : ApiMacMlmeDisassociateInd)
  | dataInd (pDataInd : Option ApiMacMcpsDataInd)
  deriving DecidableEq

/-- The collector as a machine. Its output are the calls into the MAC. -/
def collectorMachine : EventMachine FifteenDotFourCollector CollectorStep (List MacCall) where
  step c
    | .start => some (c.start, [])
    | .process => some c.process
    | .startCnf status => some (c.startCnfCb status, [])
    | .assocInd pData device status =>
      some ((c.assocIndCb device status pData).1,
        [.mlmeAssociateRsp (c.assocIndCb device status pData).2])
    | .disassocInd pData => some (c.disassocIndCb pData, [])
    | .dataInd pDataInd => (c.dataIndCB pDataInd).map fun c => (c, [])

end SensorCollector
