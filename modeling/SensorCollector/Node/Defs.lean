import SensorCollector.Collector.Defs
import SensorCollector.Device.Defs

set_option relaxedAutoImplicit false
set_option autoImplicit false

/-!
# Nodes

The variable `myNode` of an application is a collector or a device. It uses the functions that both
classes inherit and those that each class has with the same name, so what is said about the data
path of a node is said about both classes.

## Main definitions

* `SensorCollector.Node` — a collector or a device, with the functions of both.
* `SensorCollector.NodeOp`, `SensorCollector.nodeMachine` — the operations on the data path.

## Main results

* `SensorCollector.Node.dataIndCB_eq_map`, `SensorCollector.Node.beginTransmission_eq_map`,
  `SensorCollector.Node.endTransmission_eq` — the functions of the two classes are those of the
  parent class, with the PAN and the transmit option of the class.
* `SensorCollector.node_step_frame` — what an operation can change.
-/

namespace SensorCollector

/-- The object `myNode` of an application. -/
inductive Node
  | collector (c : FifteenDotFourCollector)
  | device (d : FifteenDotFourDevice)

namespace Node

/-- The part of a node that belongs to the parent class. -/
def base : Node → FifteenDotFour
  | .collector c => c.toFifteenDotFour
  | .device d => d.toFifteenDotFour

/-- The node with that part replaced. -/
def withBase : Node → FifteenDotFour → Node
  | .collector c, b => .collector { c with toFifteenDotFour := b }
  | .device d, b => .device { d with toFifteenDotFour := b }

/-- `getPanID`. -/
def getPanID : Node → UInt16
  | .collector c => c.getPanID
  | .device d => d.getPanID

/-- The PAN a node sends to. -/
def dstPanId : Node → UInt16
  | .collector c => c.panID
  | .device _ => 0xFAFA

/-- Whether a node sends indirectly. -/
def indirect : Node → Bool
  | .collector _ => true
  | .device _ => false

/-! ## The functions of a node -/

/-- `available`. -/
def available (node : Node) : ℤ := node.base.available

/-- `read(void)`. -/
def read (node : Node) : Option (ℤ × Node) :=
  node.base.read.map fun r => (r.1, node.withBase r.2)

/-- `peek`. -/
def peek (node : Node) : Option UInt8 := node.base.peek

/-- `flush`. -/
def flush (node : Node) : Option Node := node.base.flush.map node.withBase

/-- `read(user_buf, size)`. -/
def readBuf (node : Node) (userBuf : List UInt8) (size : ℕ) : Option (ℕ × List UInt8 × Node) :=
  (node.base.readBuf userBuf size).map fun r => (r.1, r.2.1, node.withBase r.2.2)

/-- `write(w_byte)`. -/
def write (node : Node) (wByte : UInt8) : Option (ℕ × Node) :=
  (node.base.write wByte).map fun r => (r.1, node.withBase r.2)

/-- `write(user_buf, size)`. -/
def writeBuf (node : Node) (userBuf : List UInt8) (size : ℕ) : Option (ℕ × Node) :=
  (node.base.writeBuf userBuf size).map fun r => (r.1, node.withBase r.2)

/-- `dataIndCB`. -/
def dataIndCB (pDataInd : Option ApiMacMcpsDataInd) : Node → Option Node
  | .collector c => (c.dataIndCB pDataInd).map .collector
  | .device d => (d.dataIndCB pDataInd).map .device

/-- `beginTransmission`. -/
def beginTransmission (address : UInt16) : Node → Option (Bool × Node)
  | .collector c => (c.beginTransmission address).map fun r => (r.1, .collector r.2)
  | .device d => (d.beginTransmission address).map fun r => (r.1, .device r.2)

/-- `endTransmission`: the data request, and the result for the status the MAC returns for it. -/
def endTransmission (address : UInt16) (status : ApiMacStatus) : Node → ApiMacMcpsDataReq × Bool
  | .collector c => c.endTransmission address status
  | .device d => d.endTransmission address status

/-! ## The functions in terms of the parent class -/

@[simp] theorem base_withBase (node : Node) (b : FifteenDotFour) : (node.withBase b).base = b := by
  cases node <;> rfl

@[simp] theorem withBase_base (node : Node) : node.withBase node.base = node := by
  cases node <;> rfl

@[simp] theorem getPanID_withBase (node : Node) (b : FifteenDotFour) :
    (node.withBase b).getPanID = node.getPanID := by
  cases node <;> rfl

@[simp] theorem dstPanId_withBase (node : Node) (b : FifteenDotFour) :
    (node.withBase b).dstPanId = node.dstPanId := by
  cases node <;> rfl

/-- `dataIndCB` of a node is that of the parent class, for the PAN of the node. -/
theorem dataIndCB_eq_map (node : Node) (pDataInd : Option ApiMacMcpsDataInd) :
    node.dataIndCB pDataInd =
      (node.base.dataIndCB node.getPanID pDataInd).map node.withBase := by
  cases node with
  | collector c =>
    rw [dataIndCB, FifteenDotFourCollector.dataIndCB, Option.map_map]
    rfl
  | device d =>
    rw [dataIndCB, FifteenDotFourDevice.dataIndCB, Option.map_map]
    rfl

/-- `beginTransmission` of a node is that of the parent class. -/
theorem beginTransmission_eq_map (node : Node) (address : UInt16) :
    node.beginTransmission address =
      (node.base.beginTransmission address).map fun r => (r.1, node.withBase r.2) := by
  cases node with
  | collector c =>
    rw [beginTransmission, FifteenDotFourCollector.beginTransmission, Option.map_map]
    rfl
  | device d =>
    rw [beginTransmission, FifteenDotFourDevice.beginTransmission, Option.map_map]
    rfl

/-- `endTransmission` of a node is that of the parent class, for the PAN it sends to. -/
theorem endTransmission_eq (node : Node) (address : UInt16) (status : ApiMacStatus) :
    node.endTransmission address status =
      node.base.endTransmission node.dstPanId node.indirect address status := by
  cases node <;> rfl

/-- A bulk read leaves the transmit buffer as it is. -/
theorem txBuffer_readBuf {node node' : Node} {userBuf userBuf' : List UInt8} {size n : ℕ}
    (hread : node.readBuf userBuf size = some (n, userBuf', node')) :
    node'.base.txBuffer = node.base.txBuffer := by
  simp only [readBuf, FifteenDotFour.readBuf, Option.map_map, Option.map_eq_some_iff,
    Function.comp_apply, Prod.mk.injEq] at hread
  obtain ⟨r, -, -, -, rfl⟩ := hread
  rw [base_withBase]

end Node

/-! ## The operations of a node -/

/-- The operations on the data path of a node. A write and a read of several bytes come with an
array of at least that many bytes, and an indication has a valid payload. -/
inductive NodeOp
  | write (wByte : UInt8)
  | writeBuf (userBuf : List UInt8) (size : ℕ) (hsize : size ≤ userBuf.length)
  | read
  | readBuf (userBuf : List UInt8) (size : ℕ) (hsize : size ≤ userBuf.length)
  | peek
  | available
  | flush
  | dataInd (pDataInd : Option ApiMacMcpsDataInd) (hvalid : ∀ ind ∈ pDataInd, ind.msdu.Valid)
  | beginTransmission (address : UInt16)
  /-- The end of a transmission, with the status the MAC returns for the data request. -/
  | endTransmission (address : UInt16) (status : ApiMacStatus)

/-- What an operation returns. -/
inductive NodeOut
  /-- The number of bytes written. -/
  | written (n : ℕ)
  /-- The next byte, or `-1`. -/
  | byte (value : ℤ)
  /-- The number of bytes read, and the user's array. -/
  | bytes (n : ℕ) (userBuf : List UInt8)
  | peeked (value : UInt8)
  | available (n : ℤ)
  | began (ok : Bool)
  /-- The data request, and whether the MAC took it. -/
  | sent (dataReq : ApiMacMcpsDataReq) (ok : Bool)
  | done

/-- The data requests an operation hands to the MAC, as far as the MAC takes them. -/
def NodeOut.requests : NodeOut → List ApiMacMcpsDataReq
  | .sent dataReq true => [dataReq]
  | _ => []

/-- A node as a machine on these operations. -/
def nodeMachine : EventMachine Node NodeOp NodeOut where
  step node
    | .write wByte => (node.write wByte).map fun r => (r.2, .written r.1)
    | .writeBuf userBuf size _ => (node.writeBuf userBuf size).map fun r => (r.2, .written r.1)
    | .read => node.read.map fun r => (r.2, .byte r.1)
    | .readBuf userBuf size _ =>
      (node.readBuf userBuf size).map fun r => (r.2.2, .bytes r.1 r.2.1)
    | .peek => node.peek.map fun b => (node, .peeked b)
    | .available => some (node, .available node.available)
    | .flush => node.flush.map fun node' => (node', .done)
    | .dataInd pDataInd _ => (node.dataIndCB pDataInd).map fun node' => (node', .done)
    | .beginTransmission address =>
      (node.beginTransmission address).map fun r => (r.2, .began r.1)
    | .endTransmission address status =>
      let r := node.endTransmission address status
      some (node, .sent r.1 r.2)

/-- A step of a run. -/
abbrev NodeStep := EventMachine.Transition Node NodeOp NodeOut

/-- **What an operation concerns**: the part of the node that belongs to the parent class. The only
data request is that of `endTransmission`. -/
theorem node_step_frame {node node' : Node} {op : NodeOp} {out : NodeOut}
    (hs : nodeMachine.step node op = some (node', out)) :
    (∃ b, node' = node.withBase b) ∧ (out.requests = [] ∨
      ∃ address status, out.requests = [(node.endTransmission address status).1]) := by
  cases op with
  | write | writeBuf | read | readBuf | flush | dataInd | beginTransmission =>
    simp only [nodeMachine, Node.write, Node.writeBuf, Node.read, Node.readBuf, Node.flush,
      Node.dataIndCB_eq_map, Node.beginTransmission_eq_map, Option.map_map,
      Option.map_eq_some_iff] at hs
    obtain ⟨r, -, heq⟩ := hs
    obtain ⟨rfl, rfl⟩ := Prod.mk.inj heq
    exact ⟨⟨_, rfl⟩, Or.inl rfl⟩
  | peek =>
    simp only [nodeMachine, Option.map_eq_some_iff] at hs
    obtain ⟨r, -, heq⟩ := hs
    obtain ⟨rfl, rfl⟩ := Prod.mk.inj heq
    exact ⟨⟨_, node.withBase_base.symm⟩, Or.inl rfl⟩
  | available =>
    obtain ⟨rfl, rfl⟩ := Prod.mk.inj (Option.some.inj hs)
    exact ⟨⟨_, node.withBase_base.symm⟩, Or.inl rfl⟩
  | endTransmission address status =>
    obtain ⟨rfl, rfl⟩ := Prod.mk.inj (Option.some.inj hs)
    refine ⟨⟨_, node.withBase_base.symm⟩, ?_⟩
    cases (node.endTransmission address status).2 with
    | true => exact Or.inr ⟨address, status, rfl⟩
    | false => exact Or.inl rfl

end SensorCollector
