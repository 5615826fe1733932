import SensorCollector.FifteenDotFour
import SensorCollector.Lib.EventMachine
import SensorCollector.Lib.FlagBits

set_option relaxedAutoImplicit false
set_option autoImplicit false

/-!
# The device

The class `FifteenDotFourDevice`: it scans for a network, associates with the coordinator it has
found and then polls it for data. What is to be done is kept as a set of events in `revents`; the
function `process` runs one branch for each event that is set, and the callbacks of the MAC and of
the two timers set events.

## Main definitions

* `SensorCollector.ClockStruct` — a one-shot timer.
* `SensorCollector.DeviceEvent` — the events in `revents`.
* `SensorCollector.FifteenDotFourDevice` — the members of the class, and its constructor.
* `SensorCollector.FifteenDotFourDevice.process` — the branches of `process`.
* `SensorCollector.DeviceStep`, `SensorCollector.deviceMachine` — the steps of a device.
-/

namespace SensorCollector

/-! ## Configuration -/

/-- `JDLLC_BEACON_ORDER_NON_BEACON`. -/
def jdllcBeaconOrderNonBeacon : UInt8 := 15

/-- `CONFIG_SCAN_DURATION`. -/
def configScanDuration : UInt8 := 5

/-- `CONFIG_LINKQUALITY`. -/
def configLinkquality : UInt8 := 1

/-- `CONFIG_PERCENTFILTER`. -/
def configPercentfilter : UInt8 := 0xFF

/-- `CONFIG_CHANNEL_MASK`. -/
def configChannelMask : List UInt8 := 0x0F :: List.replicate 16 0

/-- `POLL_TIMEOUT_VALUE`. -/
def pollTimeoutValue : UInt32 := 30000

/-- `SCAN_TIMEOUT_VALUE`. -/
def scanTimeoutValue : UInt32 := 30000

/-- `POLLING_INTERVAL`. -/
def pollingInterval : UInt32 := 2000

/-- `SCAN_INTERVAL`. -/
def scanInterval : UInt32 := 2000

/-! ## Timers -/

/-- `Clock_tickPeriod`, in microseconds. -/
def clockTickPeriod : UInt32 := 10

/-- `TIMER_MS_ADJUSTMENT`. -/
def timerMsAdjustment : UInt32 := 100

/-- A one-shot timer. -/
structure ClockStruct where
  /-- The timer has been started, and has neither expired nor been stopped. -/
  active : Bool
  /-- The time it runs, in ticks. -/
  timeout : UInt32
  deriving DecidableEq, Repr

/-- `Timer_construct`, for a one-shot timer. -/
def timerConstruct (clockDuration : UInt32) (startFlag : Bool) : ClockStruct :=
  ⟨startFlag, clockDuration * (1000 / clockTickPeriod)⟩

namespace ClockStruct

/-- `Timer_start`. -/
def timerStart (clock : ClockStruct) : ClockStruct := { clock with active := true }

/-- `Timer_stop`. -/
def timerStop (clock : ClockStruct) : ClockStruct := { clock with active := false }

/-- `Timer_isActive`. -/
def timerIsActive (clock : ClockStruct) : Bool := clock.active

/-- `Timer_setTimeout`. -/
def timerSetTimeout (clock : ClockStruct) (timeout : UInt32) : ClockStruct :=
  { clock with timeout := timeout * timerMsAdjustment }

/-- The common body of `setPollClock` and `setScanClock`: stop the timer if it is active, and start
it again if there is a time. -/
def setClock (clock : ClockStruct) (time : UInt32) : ClockStruct :=
  let stopped := if clock.timerIsActive = true then clock.timerStop else clock
  if time > 0 then (stopped.timerSetTimeout time).timerStart else stopped

end ClockStruct

/-! ## Events -/

/-- The events in `revents`. -/
inductive DeviceEvent
  | join
  | accociate
  | idle
  | poll
  deriving DecidableEq, Repr

namespace DeviceEvent

/-- The bit of an event. -/
def index : DeviceEvent → ℕ
  | .join => 0
  | .accociate => 1
  | .idle => 2
  | .poll => 3

/-- `JOIN_EVENT`, `ACCOCIATE_EVENT`, `IDLE_EVENT` and `POLL_EVENT`. -/
def mask (e : DeviceEvent) : BitVec 16 := FlagBits.bit 16 e.index

end DeviceEvent

/-! ## The members -/

/-- The members of the class `FifteenDotFourDevice`. -/
structure FifteenDotFourDevice extends FifteenDotFour where
  channel : UInt8
  panID : UInt16
  revents : BitVec 16
  panIdMatch : Bool
  coordShortAddr : UInt16
  connected : Bool
  pollClkStruct : ClockStruct
  scanClkStruct : ClockStruct
  deriving DecidableEq, Repr

namespace FifteenDotFourDevice

/-- The constructor, given what the two calls of `malloc` returned and the memory of a new object,
which keeps the two timers as they are. -/
def construct (rxBlock txBlock : Option (ℕ × List UInt8)) (raw : FifteenDotFour)
    (pollClk scanClk : ClockStruct) : FifteenDotFourDevice where
  toFifteenDotFour := FifteenDotFour.construct rxBlock txBlock raw true
  channel := 0
  panID := 0
  revents := 0
  panIdMatch := false
  coordShortAddr := 0xABAB
  connected := false
  pollClkStruct := pollClk
  scanClkStruct := scanClk

/-- `setChannel`. -/
def setChannel (d : FifteenDotFourDevice) (c : UInt8) : FifteenDotFourDevice :=
  { d with channel := c }

/-- `getChannel`. -/
def getChannel (d : FifteenDotFourDevice) : UInt8 := d.channel

/-- `setPanID`. -/
def setPanID (d : FifteenDotFourDevice) (id : UInt16) : FifteenDotFourDevice :=
  { d with panID := id }

/-- `getPanID`. -/
def getPanID (d : FifteenDotFourDevice) : UInt16 := d.panID

/-- `setPanIdMatch`. -/
def setPanIdMatch (d : FifteenDotFourDevice) (m : Bool) : FifteenDotFourDevice :=
  { d with panIdMatch := m }

/-- `getPanIdMatch`. -/
def getPanIdMatch (d : FifteenDotFourDevice) : Bool := d.panIdMatch

/-- `setCoordShortAddr`. -/
def setCoordShortAddr (d : FifteenDotFourDevice) (addr : UInt16) : FifteenDotFourDevice :=
  { d with coordShortAddr := addr }

/-- `getCoordShortAddr`. -/
def getCoordShortAddr (d : FifteenDotFourDevice) : UInt16 := d.coordShortAddr

/-- The event is set: the test `revents & mask`. -/
def Pending (d : FifteenDotFourDevice) (e : DeviceEvent) : Prop :=
  FlagBits.IsSet d.revents e.index

instance (d : FifteenDotFourDevice) (e : DeviceEvent) : Decidable (d.Pending e) :=
  inferInstanceAs (Decidable (FlagBits.IsSet _ _))

/-- Set an event: `revents |= mask`. -/
def setEvent (d : FifteenDotFourDevice) (e : DeviceEvent) : FifteenDotFourDevice :=
  { d with revents := d.revents ||| e.mask }

/-- Clear an event: `revents &= ~mask`. -/
def clearEvent (d : FifteenDotFourDevice) (e : DeviceEvent) : FifteenDotFourDevice :=
  { d with revents := d.revents &&& ~~~ e.mask }

/-- Set an event and clear all others: `revents = mask`. -/
def assignEvent (d : FifteenDotFourDevice) (e : DeviceEvent) : FifteenDotFourDevice :=
  { d with revents := e.mask }

/-! ## Timers of the device -/

/-- `initializePollClock`. -/
def initializePollClock (d : FifteenDotFourDevice) : FifteenDotFourDevice :=
  { d with pollClkStruct := timerConstruct pollTimeoutValue false }

/-- `setPollClock`. -/
def setPollClock (d : FifteenDotFourDevice) (pollTime : UInt32) : FifteenDotFourDevice :=
  { d with pollClkStruct := d.pollClkStruct.setClock pollTime }

/-- `processPollTimeoutCallback`. -/
def processPollTimeoutCallback (d : FifteenDotFourDevice) : FifteenDotFourDevice :=
  d.setEvent .poll

/-- `initializeScanClock`. -/
def initializeScanClock (d : FifteenDotFourDevice) : FifteenDotFourDevice :=
  { d with scanClkStruct := timerConstruct scanTimeoutValue false }

/-- `setScanClock`. -/
def setScanClock (d : FifteenDotFourDevice) (scanTime : UInt32) : FifteenDotFourDevice :=
  { d with scanClkStruct := d.scanClkStruct.setClock scanTime }

/-- `processScanTimeoutCallback`. -/
def processScanTimeoutCallback (d : FifteenDotFourDevice) : FifteenDotFourDevice :=
  d.setEvent .join

/-! ## Starting -/

/-- `begin`, as far as it concerns the members: the rest sets up the MAC. -/
def begin (d : FifteenDotFourDevice) (autoJoin : Bool) : FifteenDotFourDevice :=
  let d := d.initializePollClock.initializeScanClock
  if autoJoin then d.setEvent .join else d

/-- `connect`. -/
def connect (d : FifteenDotFourDevice) : FifteenDotFourDevice := d.setEvent .join

/-! ## The branches of `process` -/

/-- The scan request. -/
def scanReq : ApiMacMlmeScanReq where
  scanChannels := configChannelMask
  scanType := .active
  scanDuration :=
    if configMacBeaconOrder = jdllcBeaconOrderNonBeacon then configScanDuration
    else configMacBeaconOrder
  channelPage := configChannelPage
  phyID := configPhyId
  maxResults := 0
  permitJoining := false
  linkQuality := configLinkquality
  percentFilter := configPercentfilter
  sec := .zero

/-- The associate request. -/
def assocReq (d : FifteenDotFourDevice) : ApiMacMlmeAssociateReq where
  sec := .zero
  logicalChannel := d.getChannel
  channelPage := configChannelPage
  phyID := configPhyId
  coordAddress := ⟨d.getCoordShortAddr, .short⟩
  coordPanId := d.getPanID
  capabilityInformation :=
    { panCoord := false, ffd := false, mainsPower := false, rxOnWhenIdle := false,
      security := false, allocAddr := true }

/-- The poll request. -/
def pollReq (d : FifteenDotFourDevice) : ApiMacMlmePollReq where
  coordAddress := ⟨d.getCoordShortAddr, .short⟩
  coordPanId := d.getPanID
  sec := .zero

/-- The branch for `JOIN_EVENT`. -/
def processJoin (d : FifteenDotFourDevice) : FifteenDotFourDevice × List MacCall :=
  if d.Pending .join then
    (d.clearEvent .join, [.mlmeSetReqBool .rxOnWhenIdle true, .mlmeScanReq scanReq])
  else (d, [])

/-- The branch for `ACCOCIATE_EVENT`. -/
def processAccociate (d : FifteenDotFourDevice) : FifteenDotFourDevice × List MacCall :=
  if d.Pending .accociate then
    (d.clearEvent .accociate, [.mlmeAssociateReq d.assocReq])
  else (d, [])

/-- The branch for `IDLE_EVENT`. -/
def processIdle (d : FifteenDotFourDevice) : FifteenDotFourDevice × List MacCall :=
  if d.Pending .idle then
    let d := d.clearEvent .idle
    (if d.connected then d.setPollClock pollingInterval else d.setScanClock scanInterval,
      [.mlmeSetReqBool .rxOnWhenIdle false])
  else (d, [])

/-- The branch for `POLL_EVENT`. -/
def processPoll (d : FifteenDotFourDevice) : FifteenDotFourDevice × List MacCall :=
  if d.Pending .poll then
    ((d.clearEvent .poll).setEvent .idle, [.mlmePollReq d.pollReq])
  else (d, [])

/-- `process`: the four branches in turn, and then a wait for a message if no event is left. -/
def process (d : FifteenDotFourDevice) : FifteenDotFourDevice × List MacCall :=
  let afterJoin := d.processJoin
  let afterAccociate := afterJoin.1.processAccociate
  let afterIdle := afterAccociate.1.processIdle
  let afterPoll := afterIdle.1.processPoll
  (afterPoll.1, afterJoin.2 ++ afterAccociate.2 ++ afterIdle.2 ++ afterPoll.2 ++
    if afterPoll.1.revents = 0 then [.processIncoming] else [])

/-! ## Callbacks of the MAC -/

/-- `pollCnfCb`. -/
def pollCnfCb (d : FifteenDotFourDevice) (status : ApiMacStatus) : FifteenDotFourDevice :=
  if status = .noData ∨ status = .success then d.assignEvent .idle else d

/-- `dataCnfCB`. -/
def dataCnfCB (d : FifteenDotFourDevice) (status : ApiMacStatus) : FifteenDotFourDevice :=
  if status = .noAck then d.assignEvent .poll
  else if status = .success then d.assignEvent .idle
  else d

/-- `dataIndCB`. -/
def dataIndCB (d : FifteenDotFourDevice) (pDataInd : Option ApiMacMcpsDataInd) :
    Option FifteenDotFourDevice :=
  (d.toFifteenDotFour.dataIndCB d.getPanID pDataInd).map fun node =>
    { d with toFifteenDotFour := node }

/-- `checkBeaconOrder`. -/
def checkBeaconOrder (superframeSpec : UInt16) : Bool :=
  if configMacBeaconOrder = jdllcBeaconOrderNonBeacon then
    decide (apimacSfsBeaconOrder superframeSpec = configMacBeaconOrder.toUInt16)
  else decide (apimacSfsBeaconOrder superframeSpec ≤ configMacBeaconOrder.toUInt16)

/-- `beaconNotifyIndCb`. -/
def beaconNotifyIndCb (d : FifteenDotFourDevice) (pData : ApiMacMlmeBeaconNotifyInd) :
    FifteenDotFourDevice × List MacCall :=
  if pData.beaconType = .normal then
    if apimacSfsAssociationPermit pData.panDesc.superframeSpec ≠ 0 then
      if checkBeaconOrder pData.panDesc.superframeSpec = true then
        -- a device with PAN 0xFFFF can join any network
        let d :=
          if d.getPanID = 0xFFFF then (d.setPanID pData.panDesc.coordPanId).setPanIdMatch true
          else d
        if pData.panDesc.coordPanId = d.getPanID then
          (((d.setCoordShortAddr pData.panDesc.coordAddress.shortAddr).setChannel
            pData.panDesc.logicalChannel).setPanIdMatch true, [.mlmeSetReqBool .autoRequest true])
        else (d, [])
      else (d, [])
    else (d, [])
  else (d, [])

/-- `scanCnfCB`. -/
def scanCnfCB (d : FifteenDotFourDevice) (status : ApiMacStatus) : FifteenDotFourDevice :=
  if status = .success then
    if d.getPanIdMatch then d.setEvent .accociate else d
  else
    let d := d.setEvent .idle
    if d.scanClkStruct.timerIsActive = true then
      { d with scanClkStruct := d.scanClkStruct.timerStop }
    else d

/-- `associateCnfCB`. The status of the confirm is not read. -/
def associateCnfCB (d : FifteenDotFourDevice) (_status : ApiMacAssocStatus) :
    FifteenDotFourDevice :=
  { d.setEvent .idle with connected := true }

/-! ## Data -/

/-- `beginTransmission`. -/
def beginTransmission (d : FifteenDotFourDevice) (address : UInt16) :
    Option (Bool × FifteenDotFourDevice) :=
  (d.toFifteenDotFour.beginTransmission address).map fun r =>
    (r.1, { d with toFifteenDotFour := r.2 })

/-- `endTransmission`: to the PAN `0xFAFA`, directly. -/
def endTransmission (d : FifteenDotFourDevice) (address : UInt16) (status : ApiMacStatus) :
    ApiMacMcpsDataReq × Bool :=
  d.toFifteenDotFour.endTransmission 0xFAFA false address status

end FifteenDotFourDevice

/-- A device that has just been constructed. -/
def sampleDevice : FifteenDotFourDevice :=
  .construct (some (0, List.replicate (mtu * 2) 0)) (some (0, List.replicate mtu 0))
    ⟨⟨0, [], 0, 0, 0⟩, ⟨0, [], 0, 0, 0⟩, true⟩ ⟨false, 0⟩ ⟨false, 0⟩

/-- A beacon of the network `0xFAFA` that permits association. -/
def sampleBeacon : ApiMacMlmeBeaconNotifyInd :=
  ⟨.normal, ⟨⟨0xABAB, .short⟩, 0xFAFA, 0x80FF, 3⟩⟩

/-! ## The steps of a device -/

/-- The steps of a device: what the application calls, the timers and the callbacks of the MAC. -/
inductive DeviceStep
  | connect
  | process
  /-- The scan timer expires. -/
  | scanTimeout
  /-- The poll timer expires. -/
  | pollTimeout
  | scanCnf (status : ApiMacStatus)
  | associateCnf (status : ApiMacAssocStatus)
  | pollCnf (status : ApiMacStatus)
  | dataCnf (status : ApiMacStatus)
  | beaconNotifyInd (pData : ApiMacMlmeBeaconNotifyInd)
  | dataInd (pDataInd : Option ApiMacMcpsDataInd)
  deriving DecidableEq

open FifteenDotFourDevice in
/-- The device as a machine. Its output are the calls into the MAC. A timer expires only while it
is active, and is not active afterwards. A message of the MAC arrives while `process` waits or
between two calls of it; either way its callback is a step of its own, so that a timer can expire
between the wait and the message. -/
def deviceMachine : EventMachine FifteenDotFourDevice DeviceStep (List MacCall) where
  step d
    | .connect => some (d.connect, [])
    | .process => some d.process
    | .scanTimeout =>
      if d.scanClkStruct.active then
        some (processScanTimeoutCallback { d with scanClkStruct := d.scanClkStruct.timerStop }, [])
      else none
    | .pollTimeout =>
      if d.pollClkStruct.active then
        some (processPollTimeoutCallback { d with pollClkStruct := d.pollClkStruct.timerStop }, [])
      else none
    | .scanCnf status => some (d.scanCnfCB status, [])
    | .associateCnf status => some (d.associateCnfCB status, [])
    | .pollCnf status => some (d.pollCnfCb status, [])
    | .dataCnf status => some (d.dataCnfCB status, [])
    | .beaconNotifyInd pData => some (d.beaconNotifyIndCb pData)
    | .dataInd pDataInd => (d.dataIndCB pDataInd).map fun d => (d, [])

/-- A step of a run of the device. -/
abbrev DeviceTransition := EventMachine.Transition FifteenDotFourDevice DeviceStep (List MacCall)

end SensorCollector
