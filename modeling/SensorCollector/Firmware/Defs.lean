import SensorCollector.Device.Application
import SensorCollector.Firmware.Messages

set_option relaxedAutoImplicit false
set_option autoImplicit false

/-!
# The firmware

The task of the application, the task of the MAC, the timers and the port of the operating system
between them. The task of the application is `appTaskFxn`: a device first goes round the loop that
waits until it is connected, and then both builds go round the main loop. Each round ends in
`process`, which waits in `ApiMac_processIncoming` if no event is set.

A step of the application is a part of the loop, a branch of `process`, a callback of the MAC, or a
part of `OsalPort_msgReceive`. Between any two of them a timer can expire, and the MAC, which has
the higher priority, can do anything: send messages, and use blocks of the heap of its own. Its own
task and its queue are not of interest here.

It is an assumption that no timer expires inside a branch or a callback. The source does not see to
that: `revents &= ~mask` and `revents |= mask` are a load and a store, and what the callback of a
timer sets between them is lost.

The steps before the loops are not part of a run. They register the two tasks and the callbacks, and
construct the timers.

## Main definitions

* `SensorCollector.Pc` — where the application is.
* `SensorCollector.Firmware` — the state.
* `SensorCollector.FirmwareStep`, `SensorCollector.firmwareMachine` — the steps and the runs.
* `SensorCollector.FirmwareStep.posted` — the message that a step sends to the application.
* `SensorCollector.lost` — the blocks that nothing points to any more after a step.
-/

namespace SensorCollector

open EventMachine

/-! ## The branches of `process` -/

/-- The branches of `process` of the two classes. -/
inductive NodeBranch
  | start
  | open
  | device (e : DeviceEvent)
  deriving DecidableEq

namespace Node

/-- The branches of `process`, in order. -/
def branches : Node → List NodeBranch
  | .collector _ => [.start, .open]
  | .device _ => [.device .join, .device .accociate, .device .idle, .device .poll]

/-- Run one branch of `process`. -/
def runBranch : NodeBranch → Node → Option (Node × List MacCall)
  | .start, .collector c => some (.collector c.processStart.1, c.processStart.2)
  | .open, .collector c => some (.collector c.processOpen.1, c.processOpen.2)
  | .device e, .device d => some (.device (d.processBranch e).1, (d.processBranch e).2)
  | _, _ => none

/-- `revents`. -/
def revents : Node → BitVec 16
  | .collector c => c.revents
  | .device d => d.revents

/-- `connected`, for a device. -/
def isConnected : Node → Option Bool
  | .collector _ => none
  | .device d => some d.connected

end Node

/-! ## The state -/

/-- `macTaskId`: the MAC is registered first. -/
def macTaskIdx : ℕ := 0

/-- `appTaskId`. -/
def appTaskIdx : ℕ := 1

/-- Where the application is. -/
inductive Pc
  /-- At the test of the loop that waits for the connection. -/
  | join
  /-- At the first part of the main loop. -/
  | send
  /-- At the second part of the main loop. -/
  | receive
  /-- In `process`, with branches to run. -/
  | process (todo : List NodeBranch)
  /-- At `Semaphore_pend`. -/
  | waiting
  /-- At `OsalPort_msgDequeue`. -/
  | receiving
  /-- At `OsalPort_MSG_Q_EMPTY`. -/
  | testing (pMsg : Option Addr)
  /-- At `OsalPort_clearEvent` or `OsalPort_setEvent`. -/
  | signalling (pMsg : Option Addr) (isEmpty : Bool)
  /-- After `OsalPort_msgReceive`. -/
  | handling (pMsg : Option Addr)
  deriving DecidableEq

/-- The message that the application has taken out of its queue. -/
def Pc.hand : Pc → Option Addr
  | .testing pMsg | .signalling pMsg _ | .handling pMsg => pMsg
  | _ => none

/-- The state of the firmware. -/
structure Firmware where
  osal : OsalPort MacBody
  app : AppTask
  pc : Pc
  /-- The device has not left the loop that waits for the connection. -/
  joining : Bool
  /-- The blocks of the heap that belong to the MAC. -/
  macBlocks : List Addr

/-- The steps of the firmware. -/
inductive FirmwareStep
  /-- The test of the loop that waits for the connection. The clock is read if it is left. -/
  | join (ticks : UInt32)
  | send (ticks later : UInt32) (status : ApiMacStatus)
  | receive (buf : List UInt8) (hbuf : buf.length = bufSize)
  /-- The next branch of `process`. -/
  | branch
  /-- The test at the end of `process`. -/
  | test
  | pend
  | take
  | look
  | signal
  /-- The callback of a message, with its two locals that are not initialised, and then the message
  is freed. -/
  | handle (device : AssociationDevice) (status : ApiMacAssocStatus)
  | scanTimeout
  | pollTimeout
  /-- The MAC calls `MAC_CbackEvent`. -/
  | cback (pData : Addr) (msg : MacCbackMsg) (block retry : Option Addr)
  | macAlloc (buf : Addr) (block : MsgBlock MacBody)
  | macWrite (buf : Addr) (block : MsgBlock MacBody)
  | macFree (buf : Addr)

/-- What a step does outside the firmware, and the messages it handles. -/
inductive FirmwareCall
  | app (call : AppTaskCall)
  /-- `processIncomingICallMsg` is called. -/
  | incoming (msg : MacCbackMsg)
  deriving DecidableEq

/-- A message that is handled. -/
def FirmwareCall.incoming? : FirmwareCall → Option MacCbackMsg
  | .app _ => none
  | .incoming msg => some msg

/-! ## The steps -/

/-- `Task_self` in the task of the application. -/
def appTaskHndl : ℕ := 1

/-- An allocation can return this: nothing is allocated there. -/
def IsFree (heap : Heap MacBody) (block : Option Addr) : Prop :=
  ∀ buf ∈ block, heap buf = none

instance (heap : Heap MacBody) (block : Option Addr) : Decidable (IsFree heap block) :=
  Option.decidableForallMem block

/-- The blocks of the MAC that a message takes with it: the block that it is in, or what it points
to. -/
def handedOver (pData : Addr) (event : MacCbackEvent) : List Addr :=
  if event.inBlock then [pData] else event.attached

/-- The MAC can call `MAC_CbackEvent`: the blocks that it hands over are its own, a message that is
in a block is in the one that it says, and the allocations return blocks that are free. The second
one comes after the data request has been freed. -/
def CanCback (s : Firmware) (pData : Addr) (msg : MacCbackMsg) (block retry : Option Addr) : Prop :=
  (∀ buf ∈ handedOver pData msg.event, buf ∈ s.macBlocks) ∧
    (msg.event.inBlock → (s.osal.heap pData).map MsgBlock.body = some (.cback msg)) ∧
    IsFree s.osal.heap block ∧
    ∀ buf ∈ retry, buf ∈ msg.event.attached ∨ s.osal.heap buf = none

instance (s : Firmware) (pData : Addr) (msg : MacCbackMsg) (block retry : Option Addr) :
    Decidable (CanCback s pData msg block retry) :=
  -- by a search of the lists, not of all addresses
  have : Decidable (∀ buf ∈ handedOver pData msg.event, buf ∈ s.macBlocks) :=
    List.decidableBAll _ _
  have : Decidable (∀ buf ∈ retry, buf ∈ msg.event.attached ∨ s.osal.heap buf = none) :=
    Option.decidableForallMem retry
  inferInstanceAs (Decidable (_ ∧ _ ∧ _ ∧ _))

namespace Firmware

/-- The place after `process`: the start of the loop that the application is in. -/
def next (s : Firmware) : Pc := if s.joining then .join else .send

/-- A timer of the device expires: its callback sets an event and posts the semaphore. -/
def timeout (s : Firmware) (step : DeviceStep) : Option (Firmware × List FirmwareCall) :=
  match s.app.node with
  | .collector _ => none
  | .device d => do
    let (d, _) ← deviceMachine.step d step
    let osal ← s.osal.semPost appTaskIdx
    return ({ s with app := { s.app with node := .device d }, osal := osal }, [])

/-- The end of `ApiMac_processIncoming` for a message: its callback is called, and then it is
freed. -/
def handle (s : Firmware) (pMsg : Addr) (device : AssociationDevice)
    (status : ApiMacAssocStatus) : Option (Firmware × List FirmwareCall) := do
  let block ← s.osal.heap pMsg
  match block.body with
  | .data => none
  | .cback msg => do
    let (node, calls) ← s.app.node.incoming device status msg
    let heap ← freeAttached s.osal.heap msg
    let (heap, _) ← osalPortMsgDeallocate heap (some pMsg)
    return ({ s with
      osal := { s.osal with heap := heap }
      app := { s.app with node := node }
      pc := s.next }, .incoming msg :: calls.map fun call => .app (.mac call))

end Firmware

/-- The firmware as a machine. The blocks that the MAC writes to are its own, and it leaves the
destination in a header as `OsalPort_msgAllocate` has set it. -/
def firmwareMachine : EventMachine Firmware FirmwareStep (List FirmwareCall) where
  step s
    | .join ticks =>
      match s.pc, s.app.node.isConnected with
      | .join, some true =>
        some ({ s with
          app := { s.app with start := getCurrentTime ticks }, joining := false, pc := .send }, [])
      | .join, some false => some ({ s with pc := .process s.app.node.branches }, [])
      | _, _ => none
    | .send ticks later status =>
      match s.pc with
      | .send =>
        (s.app.send ticks later status).map fun r =>
          ({ s with app := r.1, pc := .receive }, r.2.map .app)
      | _ => none
    | .receive buf _ =>
      match s.pc with
      | .receive =>
        (s.app.receive buf).map fun r =>
          ({ s with app := r.1, pc := .process r.1.node.branches }, r.2.map .app)
      | _ => none
    | .branch =>
      match s.pc with
      | .process (b :: todo) =>
        (s.app.node.runBranch b).map fun r =>
          ({ s with app := { s.app with node := r.1 }, pc := .process todo },
            r.2.map fun call => .app (.mac call))
      | _ => none
    | .test =>
      match s.pc with
      | .process [] =>
        some ({ s with pc := if s.app.node.revents = 0 then .waiting else s.next }, [])
      | _ => none
    | .pend =>
      match s.pc with
      | .waiting =>
        (s.osal.semPend appTaskIdx).map fun osal => ({ s with osal := osal, pc := .receiving }, [])
      | _ => none
    | .take =>
      match s.pc with
      | .receiving =>
        (s.osal.msgTake appTaskIdx).map fun r => ({ s with osal := r.1, pc := .testing r.2 }, [])
      | _ => none
    | .look =>
      match s.pc with
      | .testing pMsg =>
        (s.osal.msgQEmpty appTaskIdx).map fun isEmpty =>
          ({ s with pc := .signalling pMsg isEmpty }, [])
      | _ => none
    | .signal =>
      match s.pc with
      | .signalling pMsg isEmpty =>
        (s.osal.msgSignal appTaskHndl appTaskIdx isEmpty).map fun osal =>
          ({ s with osal := osal, pc := .handling pMsg }, [])
      | _ => none
    | .handle device status =>
      match s.pc with
      | .handling none => some ({ s with pc := s.next }, [])
      | .handling (some pMsg) => s.handle pMsg device status
      | _ => none
    | .scanTimeout => s.timeout .scanTimeout
    | .pollTimeout => s.timeout .pollTimeout
    | .cback pData msg block retry =>
      if CanCback s pData msg block retry then
        (macCbackEvent s.osal (OsalPort.taskIdOf appTaskIdx) pData msg block retry).map
          fun osal =>
            ({ s with
              osal := osal, macBlocks := s.macBlocks.diff (handedOver pData msg.event) }, [])
      else none
    | .macAlloc buf block =>
      if s.osal.heap buf = none ∧ block.hdr.destId = osalPortTaskNoTask then
        some ({ s with
          osal := { s.osal with heap := Function.update s.osal.heap buf (some block) }
          macBlocks := buf :: s.macBlocks }, [])
      else none
    | .macWrite buf block =>
      if buf ∈ s.macBlocks ∧ block.hdr.destId = osalPortTaskNoTask then
        some ({ s with
          osal := { s.osal with heap := Function.update s.osal.heap buf (some block) } }, [])
      else none
    | .macFree buf =>
      if buf ∈ s.macBlocks then
        some ({ s with
          osal := { s.osal with heap := Function.update s.osal.heap buf none }
          macBlocks := s.macBlocks.erase buf }, [])
      else none

/-- A step of a run of the firmware. -/
abbrev FirmwareTransition := Transition Firmware FirmwareStep (List FirmwareCall)

/-! ## What is observed -/

/-- The message that a step sends to the application. -/
def FirmwareStep.posted : FirmwareStep → Option MacCbackMsg
  | .cback _ msg block retry => msg.posted block retry
  | _ => none

/-- The message in a block. -/
def messageAt (heap : Heap MacBody) (a : Addr) : Option MacCbackMsg :=
  match heap.body a with
  | some (.cback msg) => some msg
  | _ => none

/-- The message in a block is what the block holds. -/
theorem messageAt_eq_some_iff {heap : Heap MacBody} {a : Addr} {msg : MacCbackMsg} :
    messageAt heap a = some msg ↔ heap.body a = some (.cback msg) := by
  rw [messageAt]
  split
  · rename_i m hbody
    rw [hbody, Option.some.injEq, Option.some.injEq, MacBody.cback.injEq]
  · rename_i hne
    constructor
    · intro h
      cases h
    · intro h
      exact absurd h (hne msg)

/-- The blocks that nothing points to any more after a step: what a message points to that is not
handled because of its status, and the results of a scan confirm for which there is no room. -/
def lost (s : Firmware) : FirmwareStep → List Addr
  | .handle _ _ =>
    match s.pc.hand.bind s.osal.heap with
    | some ⟨_, .cback msg⟩ => if msg.status = macBadState then msg.event.attached else []
    | _ => []
  | .cback _ msg block retry =>
    match msg.posted block retry with
    | none => msg.event.results
    | some _ => []
  | _ => []

/-- The application waits and cannot take its semaphore. -/
def Firmware.Asleep (s : Firmware) : Prop :=
  s.pc = .waiting ∧ s.osal.semPend appTaskIdx = none

end SensorCollector
