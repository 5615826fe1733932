import SensorCollector.CTypes

set_option relaxedAutoImplicit false
set_option autoImplicit false

/-!
# The MAC interface

The part of the MAC interface `api_mac.h` that the node classes use: the data of the indications
and confirms they receive and of the requests they make, and the calls as a list of actions. The
MAC itself is not modelled; it is the environment that accepts the calls and delivers the
indications and confirms.

## Main definitions

* `SensorCollector.ApiMacStatus`, `SensorCollector.ApiMacAssocStatus` — the status codes.
* `SensorCollector.ApiMacSData` — a payload, as a pointer and a length.
* `SensorCollector.MacCall` — the calls of the node classes into the MAC.
-/

namespace SensorCollector

/-- A general MAC status. The callbacks receive it by a cast from the status byte of a MAC
message, so every byte occurs. -/
structure ApiMacStatus where
  /-- The status byte. -/
  code : UInt8
  deriving DecidableEq, Repr

namespace ApiMacStatus

/-- `ApiMac_status_success`. -/
def success : ApiMacStatus := ⟨0⟩

/-- `ApiMac_status_noAck`. -/
def noAck : ApiMacStatus := ⟨0xE9⟩

/-- `ApiMac_status_noBeacon`. -/
def noBeacon : ApiMacStatus := ⟨0xEA⟩

/-- `ApiMac_status_noData`. -/
def noData : ApiMacStatus := ⟨0xEB⟩

end ApiMacStatus

/-- The status of an association attempt, in a confirm by a cast from the status byte too. -/
structure ApiMacAssocStatus where
  /-- The status byte. -/
  code : UInt8
  deriving DecidableEq, Repr

namespace ApiMacAssocStatus

/-- `ApiMac_assocStatus_success`. -/
def success : ApiMacAssocStatus := ⟨0⟩

/-- `ApiMac_assocStatus_panAtCapacity`. -/
def panAtCapacity : ApiMacAssocStatus := ⟨1⟩

/-- `ApiMac_assocStatus_panAccessDenied`. -/
def panAccessDenied : ApiMacAssocStatus := ⟨2⟩

end ApiMacAssocStatus

/-- `APIMAC_SADDR_EXT_LEN`. -/
def apimacSaddrExtLen : ℕ := 8

/-- An extended address. -/
abbrev ApiMacSAddrExt := Vector UInt8 apimacSaddrExtLen

/-- The mode of an address. -/
inductive ApiMacAddrType
  | none
  | short
  | extended
  deriving DecidableEq, Repr

/-- An address: the short view of the address union, and the mode. -/
structure ApiMacSAddr where
  /-- The union, read as a short address. -/
  shortAddr : UInt16
  /-- Which view of the union is meant. -/
  addrMode : ApiMacAddrType
  deriving DecidableEq, Repr

/-- The security parameters of a message. -/
structure ApiMacSec where
  keySource : Vector UInt8 8
  securityLevel : UInt8
  keyIdMode : UInt8
  keyIndex : UInt8
  deriving DecidableEq

/-- Security parameters with all bytes zero: no security. -/
def ApiMacSec.zero : ApiMacSec := ⟨Vector.replicate 8 0, 0, 0, 0⟩

/-- The capability information of a device. -/
structure ApiMacCapabilityInfo where
  panCoord : Bool
  ffd : Bool
  mainsPower : Bool
  rxOnWhenIdle : Bool
  security : Bool
  allocAddr : Bool
  deriving DecidableEq, Repr

/-- A payload: a pointer to its bytes, or `NULL`, and its length. -/
structure ApiMacSData where
  /-- The block the pointer points to. -/
  p : Option (List UInt8)
  /-- The number of bytes of the payload. -/
  len : UInt16
  deriving DecidableEq, Repr

namespace ApiMacSData

/-- The block of a payload has as many bytes as its length says. -/
def Valid (msdu : ApiMacSData) : Prop := ∀ block ∈ msdu.p, msdu.len.toNat ≤ block.length

/-- The bytes of a payload. -/
def bytes (msdu : ApiMacSData) : List UInt8 := (msdu.p.getD []).take msdu.len.toNat

end ApiMacSData

/-! ## Indications and confirms -/

/-- A data indication, with the fields the callbacks read. -/
structure ApiMacMcpsDataInd where
  /-- The PAN the frame was sent to. -/
  dstPanId : UInt16
  /-- The payload. -/
  msdu : ApiMacSData
  deriving DecidableEq, Repr

/-- An associate indication: a device asks to join. -/
structure ApiMacMlmeAssociateInd where
  deviceAddress : ApiMacSAddrExt
  capabilityInformation : ApiMacCapabilityInfo
  deriving DecidableEq

/-- A disassociate indication: a device leaves. -/
structure ApiMacMlmeDisassociateInd where
  deviceAddress : ApiMacSAddrExt
  deriving DecidableEq

/-- The type of a beacon. -/
inductive ApiMacBeaconType
  | normal
  | enhanced
  deriving DecidableEq, Repr

/-- The description of a PAN in a beacon, with the fields the callbacks read. -/
structure ApiMacPanDesc where
  coordAddress : ApiMacSAddr
  coordPanId : UInt16
  superframeSpec : UInt16
  logicalChannel : UInt8
  deriving DecidableEq, Repr

/-- A beacon notification. -/
structure ApiMacMlmeBeaconNotifyInd where
  beaconType : ApiMacBeaconType
  panDesc : ApiMacPanDesc
  deriving DecidableEq, Repr

/-- `APIMAC_SFS_BEACON_ORDER`. -/
def apimacSfsBeaconOrder (s : UInt16) : UInt16 := s &&& 0x0F

/-- `APIMAC_SFS_ASSOCIATION_PERMIT`. -/
def apimacSfsAssociationPermit (s : UInt16) : UInt16 := (s >>> 15) &&& 0x01

/-! ## Requests and responses -/

/-- The transmit options the senders set. -/
structure ApiMacTxOptions where
  ack : Bool
  indirect : Bool
  deriving DecidableEq, Repr

/-- A data request. -/
structure ApiMacMcpsDataReq where
  dstAddr : ApiMacSAddr
  dstPanId : UInt16
  srcAddrMode : ApiMacAddrType
  msduHandle : UInt8
  txOptions : ApiMacTxOptions
  msdu : ApiMacSData
  deriving DecidableEq, Repr

/-- An associate response. -/
structure ApiMacMlmeAssociateRsp where
  sec : ApiMacSec
  deviceAddress : ApiMacSAddrExt
  assocShortAddress : UInt16
  status : ApiMacAssocStatus
  deriving DecidableEq

/-- An associate request. -/
structure ApiMacMlmeAssociateReq where
  sec : ApiMacSec
  logicalChannel : UInt8
  channelPage : UInt8
  phyID : UInt8
  coordAddress : ApiMacSAddr
  coordPanId : UInt16
  capabilityInformation : ApiMacCapabilityInfo
  deriving DecidableEq

/-- A poll request. -/
structure ApiMacMlmePollReq where
  coordAddress : ApiMacSAddr
  coordPanId : UInt16
  sec : ApiMacSec
  deriving DecidableEq

/-- The types of a scan. -/
inductive ApiMacScantype
  | energyDetect
  | active
  | passive
  | orphan
  | activeEnhanced
  deriving DecidableEq, Repr

/-- A scan request, with the fields the device sets. -/
structure ApiMacMlmeScanReq where
  scanChannels : List UInt8
  scanType : ApiMacScantype
  scanDuration : UInt8
  channelPage : UInt8
  phyID : UInt8
  maxResults : UInt8
  permitJoining : Bool
  linkQuality : UInt8
  percentFilter : UInt8
  sec : ApiMacSec
  deriving DecidableEq

/-- The parameters of a start request for several physical layers. -/
structure ApiMacMpmParams where
  eBeaconOrder : UInt8
  offsetTimeSlot : UInt8
  nbpaneBeaconOrder : UInt16
  deriving DecidableEq, Repr

/-- A start request, with the fields the collector sets. -/
structure ApiMacMlmeStartReq where
  startTime : UInt32
  panId : UInt16
  logicalChannel : UInt8
  channelPage : UInt8
  phyID : UInt8
  beaconOrder : UInt8
  superframeOrder : UInt8
  panCoordinator : Bool
  batteryLifeExt : Bool
  coordRealignment : Bool
  realignSec : ApiMacSec
  mpmParams : ApiMacMpmParams
  startFH : Bool
  deriving DecidableEq

/-- The attributes of the MAC the node classes set while they run. -/
inductive ApiMacAttributeBool
  | associatePermit
  | autoRequest
  | rxOnWhenIdle
  deriving DecidableEq, Repr

/-- A call into the MAC. -/
inductive MacCall
  | mlmeSetReqBool (pibAttribute : ApiMacAttributeBool) (pibValue : Bool)
  | mlmeScanReq (pData : ApiMacMlmeScanReq)
  | mlmeAssociateReq (pData : ApiMacMlmeAssociateReq)
  | mlmeAssociateRsp (pData : ApiMacMlmeAssociateRsp)
  | mlmePollReq (pData : ApiMacMlmePollReq)
  | mlmeStartReq (pData : ApiMacMlmeStartReq)
  | mcpsDataReq (pData : ApiMacMcpsDataReq)
  /-- `ApiMac_processIncoming`: wait for a message of the MAC and run its callback. -/
  | processIncoming
  deriving DecidableEq

end SensorCollector
