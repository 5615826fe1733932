import SensorCollector.ApiMac
import SensorCollector.Osal.Defs

set_option relaxedAutoImplicit false
set_option autoImplicit false

/-!
# The payload information elements

The parser of `api_mac.c` for the information elements in the payload of a frame. It goes over the
bytes and makes a linked list with one record for each element; a record points back into the bytes.
The same function parses the group elements of a payload, and the elements inside one of them.

The bytes are a block of memory, and a pointer into it is a number of bytes from its start. A read
beyond the block is undefined in C; here it gives `none`.

`OsalPort_malloc` returns the blocks of a list, in order, and `NULL` when there are none left.

## Main definitions

* `SensorCollector.ApiMacPayloadIeItem`, `SensorCollector.ApiMacPayloadIeRec` — the elements and the
  records of the list.
* `SensorCollector.parsePayloadIEs`, with its two callers
  `SensorCollector.apiMacParsePayloadGroupIEs` and `SensorCollector.apiMacParsePayloadSubIEs`.
* `SensorCollector.apiMacFreeIEList` — the list is freed.
-/

namespace SensorCollector

/-! ## The header of an element -/

/-- `MAKE_UINT16`. -/
def makeUint16 (low high : UInt8) : UInt16 := low.toUInt16 ||| high.toUInt16 <<< 8

/-- `IE_UNPACKING`. -/
def ieUnpacking (var size position : UInt16) : UInt16 := (var >>> position) &&& (1 <<< size - 1)

/-- `GET_SUBIE_TYPE`. -/
def getSubieType (ctl : UInt16) : Bool := ieUnpacking ctl 1 15 ≠ 0

/-- `GET_SUBIE_ID_LONG`. -/
def getSubieIdLong (ctl : UInt16) : UInt8 := (ieUnpacking ctl 4 11).toUInt8

/-- `GET_SUBIE_LEN_LONG`. -/
def getSubieLenLong (ctl : UInt16) : UInt16 := ieUnpacking ctl 11 0

/-- `GET_SUBIE_ID_SHORT`. -/
def getSubieIdShort (ctl : UInt16) : UInt8 := (ieUnpacking ctl 7 8).toUInt8

/-- `GET_SUBIE_LEN_SHORT`. -/
def getSubieLenShort (ctl : UInt16) : UInt16 := ieUnpacking ctl 8 0

/-- `PAYLOAD_IE_HEADER_LEN`. -/
def payloadIeHeaderLen : ℕ := 2

/-- `ApiMac_payloadIEGroup_term`. -/
def payloadIEGroupTerm : UInt8 := 0x0F

namespace ApiMacStatus

/-- `ApiMac_status_unsupported`. -/
def unsupported : ApiMacStatus := ⟨0x18⟩

/-- `ApiMac_status_noResources`. -/
def noResources : ApiMacStatus := ⟨0x1A⟩

end ApiMacStatus

/-! ## The list -/

/-- A payload information item. -/
structure ApiMacPayloadIeItem where
  ieTypeLong : Bool
  ieId : UInt8
  ieContentLen : UInt16
  /-- Where the contents start. -/
  pIEContent : ℕ
  deriving DecidableEq

/-- A record of the list. -/
structure ApiMacPayloadIeRec where
  pNext : Option Addr
  item : ApiMacPayloadIeItem
  deriving DecidableEq

/-- The records that are allocated. -/
abbrev IeHeap := Addr → Option ApiMacPayloadIeRec

/-- The loop that frees a list. A list in a circle would be read after it has been freed. -/
def freeIes : ℕ → IeHeap → Option Addr → Option IeHeap
  | _, heap, none => some heap
  | 0, _, some _ => none
  | n + 1, heap, some pTmp => do
    let record ← heap pTmp
    freeIes n (Function.update heap pTmp none) record.pNext

/-- `ApiMac_freeIEList`. -/
def apiMacFreeIEList (heap : IeHeap) (pList : Option Addr) : Option IeHeap :=
  freeIes UInt32.size heap pList

/-! ## The parser -/

/-- What the loop of the parser works on. -/
structure IeParse where
  heap : IeHeap
  pList : Option Addr
  /-- The last record of the list. -/
  pIe : Option Addr
  pContent : ℕ
  lenContent : UInt16

/-- A round of the loop, up to the allocation. -/
inductive IeRound
  /-- The loop ends. -/
  | done (status : ApiMacStatus)
  /-- A record is to be allocated for this element. -/
  | item (item : ApiMacPayloadIeItem)
  deriving DecidableEq

/-- The test of the loop and its body up to the allocation. -/
def ieRound (buf : List UInt8) (contentLen : UInt16) (group : Bool) (pContent : ℕ)
    (lenContent : UInt16) : Option IeRound :=
  if lenContent < contentLen then do
    let hdr := makeUint16 (← buf[pContent]?) (← buf[pContent + 1]?)
    let pContent := pContent + payloadIeHeaderLen
    let typeLong := getSubieType hdr
    let ieId := if typeLong then getSubieIdLong hdr else getSubieIdShort hdr
    if group ∧ ¬ typeLong then return .done ApiMacStatus.unsupported
    else if group ∧ payloadIEGroupTerm = ieId then return .done ApiMacStatus.success
    else
      let ieContentLen := if typeLong then getSubieLenLong hdr else getSubieLenShort hdr
      return .item ⟨typeLong, ieId, ieContentLen, pContent⟩
  else some (.done ApiMacStatus.success)

/-- `pIe->pNext = pNext`. -/
def IeHeap.setNext (heap : IeHeap) (pIe : Addr) (pNext : Option Addr) : Option IeHeap :=
  (heap pIe).map fun record => Function.update heap pIe (some { record with pNext := pNext })

/-- The body of the loop from the allocation on: the new record is put at the end of the list. -/
def IeParse.add (s : IeParse) (pTempIe : Addr) (item : ApiMacPayloadIeItem) : Option IeParse := do
  let heap := Function.update s.heap pTempIe (some ⟨none, item⟩)
  let (heap, pList) ← match s.pList with
    | none => some (heap, some pTempIe)
    | some pList => (IeHeap.setNext heap (← s.pIe) (some pTempIe)).map fun heap =>
        (heap, some pList)
  return ⟨heap, pList, some pTempIe, item.pIEContent + item.ieContentLen.toNat,
    s.lenContent + (UInt16.ofNat payloadIeHeaderLen + item.ieContentLen)⟩

/-- The loop of the parser, with the blocks that `OsalPort_malloc` returns. -/
def ieLoop (buf : List UInt8) (contentLen : UInt16) (group : Bool) :
    List Addr → IeParse → Option (IeParse × ApiMacStatus)
  | [], s => do
    match ← ieRound buf contentLen group s.pContent s.lenContent with
    | .done status => return (s, status)
    | .item _ => return (s, ApiMacStatus.noResources)
  | pTempIe :: blocks, s => do
    match ← ieRound buf contentLen group s.pContent s.lenContent with
    | .done status => return (s, status)
    | .item item => ieLoop buf contentLen group blocks (← s.add pTempIe item)

/-- `parsePayloadIEs`, for a pointer into the block `buf`: the records, the list and the status. The
list is left as it is if there is no data. -/
def parsePayloadIEs (heap : IeHeap) (blocks : List Addr) (buf : List UInt8) (pContent : Option ℕ)
    (contentLen : UInt16) (pList : Option Addr) (group : Bool) :
    Option (IeHeap × Option Addr × ApiMacStatus) :=
  match pContent with
  | none => some (heap, pList, ApiMacStatus.noData)
  | some pContent =>
    if contentLen = 0 then some (heap, pList, ApiMacStatus.noData)
    else do
      let (s, status) ← ieLoop buf contentLen group blocks ⟨heap, none, none, pContent, 0⟩
      if status ≠ ApiMacStatus.success then do
        -- the same loop as in `ApiMac_freeIEList`
        let heap ← freeIes UInt32.size s.heap s.pList
        return (heap, none, status)
      else return (s.heap, s.pList, status)

/-- `ApiMac_parsePayloadGroupIEs`. -/
def apiMacParsePayloadGroupIEs (heap : IeHeap) (blocks : List Addr) (buf : List UInt8)
    (pPayload : Option ℕ) (payloadLen : UInt16) (pList : Option Addr) :
    Option (IeHeap × Option Addr × ApiMacStatus) :=
  parsePayloadIEs heap blocks buf pPayload payloadLen pList true

/-- `ApiMac_parsePayloadSubIEs`. -/
def apiMacParsePayloadSubIEs (heap : IeHeap) (blocks : List Addr) (buf : List UInt8)
    (pContent : Option ℕ) (contentLen : UInt16) (pList : Option Addr) :
    Option (IeHeap × Option Addr × ApiMacStatus) :=
  parsePayloadIEs heap blocks buf pContent contentLen pList false

end SensorCollector
