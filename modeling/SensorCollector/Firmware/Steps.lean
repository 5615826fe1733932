import SensorCollector.Firmware.Defs

set_option relaxedAutoImplicit false
set_option autoImplicit false

/-!
# What a step of the firmware can do

## Main definitions

* `SensorCollector.FirmwareStepsTo` — a step of the firmware, by cases.

## Main results

* `SensorCollector.firmwareStepsTo_of_step` — every step is one of these cases.
-/

namespace SensorCollector

/-- What a step of the firmware can do: the state it arrives in and what it does outside, by cases.
-/
inductive FirmwareStepsTo (s : Firmware) :
    FirmwareStep → Firmware → List FirmwareCall → Prop
  | joined (ticks : UInt32) (hpc : s.pc = .join) (hconn : s.app.node.isConnected = some true) :
    FirmwareStepsTo s (.join ticks) { s with
      app := { s.app with start := getCurrentTime ticks }, joining := false, pc := .send } []
  | joining (ticks : UInt32) (hpc : s.pc = .join) (hconn : s.app.node.isConnected = some false) :
    FirmwareStepsTo s (.join ticks) { s with pc := .process s.app.node.branches } []
  | send {ticks later : UInt32} {status : ApiMacStatus} {app : AppTask} {calls : List AppTaskCall}
    (hpc : s.pc = .send) (hsend : s.app.send ticks later status = some (app, calls)) :
    FirmwareStepsTo s (.send ticks later status) { s with app := app, pc := .receive }
      (calls.map .app)
  | receive {buf : List UInt8} {hbuf : buf.length = bufSize} {app : AppTask}
    {calls : List AppTaskCall} (hpc : s.pc = .receive)
    (hreceive : s.app.receive buf = some (app, calls)) :
    FirmwareStepsTo s (.receive buf hbuf)
      { s with app := app, pc := .process app.node.branches } (calls.map .app)
  | branch {b : NodeBranch} {todo : List NodeBranch} {node : Node} {calls : List MacCall}
    (hpc : s.pc = .process (b :: todo)) (hrun : s.app.node.runBranch b = some (node, calls)) :
    FirmwareStepsTo s .branch { s with app := { s.app with node := node }, pc := .process todo }
      (calls.map fun call => .app (.mac call))
  | wait (hpc : s.pc = .process []) (hrevents : s.app.node.revents = 0) :
    FirmwareStepsTo s .test { s with pc := .waiting } []
  | again (hpc : s.pc = .process []) (hrevents : s.app.node.revents ≠ 0) :
    FirmwareStepsTo s .test { s with pc := s.next } []
  | pend {osal : OsalPort MacBody} (hpc : s.pc = .waiting)
    (hpend : s.osal.semPend appTaskIdx = some osal) :
    FirmwareStepsTo s .pend { s with osal := osal, pc := .receiving } []
  | take {osal : OsalPort MacBody} {pMsg : Option Addr} (hpc : s.pc = .receiving)
    (htake : s.osal.msgTake appTaskIdx = some (osal, pMsg)) :
    FirmwareStepsTo s .take { s with osal := osal, pc := .testing pMsg } []
  | look {pMsg : Option Addr} {isEmpty : Bool} (hpc : s.pc = .testing pMsg)
    (hlook : s.osal.msgQEmpty appTaskIdx = some isEmpty) :
    FirmwareStepsTo s .look { s with pc := .signalling pMsg isEmpty } []
  | signal {pMsg : Option Addr} {isEmpty : Bool} {osal : OsalPort MacBody}
    (hpc : s.pc = .signalling pMsg isEmpty)
    (hsignal : s.osal.msgSignal appTaskHndl appTaskIdx isEmpty = some osal) :
    FirmwareStepsTo s .signal { s with osal := osal, pc := .handling pMsg } []
  | nothing (device : AssociationDevice) (status : ApiMacAssocStatus)
    (hpc : s.pc = .handling none) :
    FirmwareStepsTo s (.handle device status) { s with pc := s.next } []
  | handle {device : AssociationDevice} {status : ApiMacAssocStatus} {pMsg : Addr}
    {block : MsgBlock MacBody} {msg : MacCbackMsg} {node : Node} {calls : List MacCall}
    {heap₁ heap : Heap MacBody} {st : UInt8} (hpc : s.pc = .handling (some pMsg))
    (hblock : s.osal.heap pMsg = some block) (hmsg : block.body = .cback msg)
    (hnode : s.app.node.incoming device status msg = some (node, calls))
    (hattached : freeAttached s.osal.heap msg = some heap₁)
    (hfree : osalPortMsgDeallocate heap₁ (some pMsg) = some (heap, st)) :
    FirmwareStepsTo s (.handle device status)
      { s with
        osal := { s.osal with heap := heap }
        app := { s.app with node := node }
        pc := s.next } (.incoming msg :: calls.map fun call => .app (.mac call))
  | timeout {step : FirmwareStep} {t : DeviceStep} {d d' : FifteenDotFourDevice}
    {calls : List MacCall} {osal : OsalPort MacBody}
    (htimer : step = .scanTimeout ∧ t = .scanTimeout ∨ step = .pollTimeout ∧ t = .pollTimeout)
    (hnode : s.app.node = .device d) (hstep : deviceMachine.step d t = some (d', calls))
    (hpost : s.osal.semPost appTaskIdx = some osal) :
    FirmwareStepsTo s step
      { s with app := { s.app with node := .device d' }, osal := osal } []
  | cback {pData : Addr} {msg : MacCbackMsg} {block retry : Option Addr}
    {osal : OsalPort MacBody} (hcan : CanCback s pData msg block retry)
    (hcback : macCbackEvent s.osal (OsalPort.taskIdOf appTaskIdx) pData msg block retry =
      some osal) :
    FirmwareStepsTo s (.cback pData msg block retry)
      { s with
        osal := osal, macBlocks := s.macBlocks.diff (handedOver pData msg.event) } []
  | macAlloc {buf : Addr} {block : MsgBlock MacBody} (hfree : s.osal.heap buf = none)
    (hdest : block.hdr.destId = osalPortTaskNoTask) :
    FirmwareStepsTo s (.macAlloc buf block)
      { s with
        osal := { s.osal with heap := Function.update s.osal.heap buf (some block) }
        macBlocks := buf :: s.macBlocks } []
  | macWrite {buf : Addr} {block : MsgBlock MacBody} (hmem : buf ∈ s.macBlocks)
    (hdest : block.hdr.destId = osalPortTaskNoTask) :
    FirmwareStepsTo s (.macWrite buf block)
      { s with
        osal := { s.osal with heap := Function.update s.osal.heap buf (some block) } } []
  | macFree {buf : Addr} (hmem : buf ∈ s.macBlocks) :
    FirmwareStepsTo s (.macFree buf)
      { s with
        osal := { s.osal with heap := Function.update s.osal.heap buf none }
        macBlocks := s.macBlocks.erase buf } []

/-- A timer that expires. -/
theorem Firmware.timeout_cases {s s' : Firmware} {t : DeviceStep} {out : List FirmwareCall}
    (hs : s.timeout t = some (s', out)) :
    ∃ d d' calls osal, s.app.node = .device d ∧ deviceMachine.step d t = some (d', calls) ∧
      s.osal.semPost appTaskIdx = some osal ∧
      s' = { s with app := { s.app with node := .device d' }, osal := osal } ∧ out = [] := by
  rw [Firmware.timeout] at hs
  split at hs
  · cases hs
  · rename_i d hnode
    simp only [Option.bind_eq_bind, Option.bind_eq_some_iff, Option.pure_def, Option.some.injEq,
      Prod.mk.injEq] at hs
    obtain ⟨⟨d', calls⟩, hstep, osal, hpost, rfl, rfl⟩ := hs
    exact ⟨d, d', calls, osal, hnode, hstep, hpost, rfl, rfl⟩

/-- **Every step is one of these cases.** -/
theorem firmwareStepsTo_of_step {s s' : Firmware} {step : FirmwareStep}
    {out : List FirmwareCall} (hs : firmwareMachine.step s step = some (s', out)) :
    FirmwareStepsTo s step s' out := by
  cases step with
  | join ticks =>
    simp only [firmwareMachine] at hs
    split at hs
    · rename_i hpc hconn
      obtain ⟨rfl, rfl⟩ := Prod.mk.inj (Option.some.inj hs)
      exact .joined ticks hpc hconn
    · rename_i hpc hconn
      obtain ⟨rfl, rfl⟩ := Prod.mk.inj (Option.some.inj hs)
      exact .joining ticks hpc hconn
    · cases hs
  | send ticks later status =>
    simp only [firmwareMachine] at hs
    split at hs
    · rename_i hpc
      obtain ⟨⟨app, calls⟩, hsend, heq⟩ := Option.map_eq_some_iff.mp hs
      obtain ⟨rfl, rfl⟩ := Prod.mk.inj heq
      exact .send hpc hsend
    · cases hs
  | receive buf hbuf =>
    simp only [firmwareMachine] at hs
    split at hs
    · rename_i hpc
      obtain ⟨⟨app, calls⟩, hreceive, heq⟩ := Option.map_eq_some_iff.mp hs
      obtain ⟨rfl, rfl⟩ := Prod.mk.inj heq
      exact .receive hpc hreceive
    · cases hs
  | branch =>
    simp only [firmwareMachine] at hs
    split at hs
    · rename_i b todo hpc
      obtain ⟨⟨node, calls⟩, hrun, heq⟩ := Option.map_eq_some_iff.mp hs
      obtain ⟨rfl, rfl⟩ := Prod.mk.inj heq
      exact .branch hpc hrun
    · cases hs
  | test =>
    simp only [firmwareMachine] at hs
    split at hs
    · rename_i hpc
      obtain ⟨rfl, rfl⟩ := Prod.mk.inj (Option.some.inj hs)
      by_cases hrevents : s.app.node.revents = 0
      · rw [if_pos hrevents]
        exact .wait hpc hrevents
      · rw [if_neg hrevents]
        exact .again hpc hrevents
    · cases hs
  | pend =>
    simp only [firmwareMachine] at hs
    split at hs
    · rename_i hpc
      obtain ⟨osal, hpend, heq⟩ := Option.map_eq_some_iff.mp hs
      obtain ⟨rfl, rfl⟩ := Prod.mk.inj heq
      exact .pend hpc hpend
    · cases hs
  | take =>
    simp only [firmwareMachine] at hs
    split at hs
    · rename_i hpc
      obtain ⟨⟨osal, pMsg⟩, htake, heq⟩ := Option.map_eq_some_iff.mp hs
      obtain ⟨rfl, rfl⟩ := Prod.mk.inj heq
      exact .take hpc htake
    · cases hs
  | look =>
    simp only [firmwareMachine] at hs
    split at hs
    · rename_i pMsg hpc
      obtain ⟨isEmpty, hlook, heq⟩ := Option.map_eq_some_iff.mp hs
      obtain ⟨rfl, rfl⟩ := Prod.mk.inj heq
      exact .look hpc hlook
    · cases hs
  | signal =>
    simp only [firmwareMachine] at hs
    split at hs
    · rename_i pMsg isEmpty hpc
      obtain ⟨osal, hsignal, heq⟩ := Option.map_eq_some_iff.mp hs
      obtain ⟨rfl, rfl⟩ := Prod.mk.inj heq
      exact .signal hpc hsignal
    · cases hs
  | handle device status =>
    simp only [firmwareMachine] at hs
    split at hs
    · rename_i hpc
      obtain ⟨rfl, rfl⟩ := Prod.mk.inj (Option.some.inj hs)
      exact .nothing device status hpc
    · rename_i pMsg hpc
      simp only [Firmware.handle, Option.bind_eq_bind, Option.bind_eq_some_iff] at hs
      obtain ⟨block, hblock, hs⟩ := hs
      split at hs
      · cases hs
      · rename_i msg hmsg
        simp only [Option.bind_eq_some_iff, Option.pure_def, Option.some.injEq,
          Prod.mk.injEq] at hs
        obtain ⟨⟨node, calls⟩, hnode, heap₁, hattached, ⟨heap, st⟩, hfree, rfl, rfl⟩ := hs
        exact .handle hpc hblock hmsg hnode hattached hfree
    · cases hs
  | scanTimeout =>
    obtain ⟨d, d', calls, osal, hnode, hstep, hpost, rfl, rfl⟩ := Firmware.timeout_cases hs
    exact .timeout (Or.inl ⟨rfl, rfl⟩) hnode hstep hpost
  | pollTimeout =>
    obtain ⟨d, d', calls, osal, hnode, hstep, hpost, rfl, rfl⟩ := Firmware.timeout_cases hs
    exact .timeout (Or.inr ⟨rfl, rfl⟩) hnode hstep hpost
  | cback pData msg block retry =>
    simp only [firmwareMachine, Option.ite_none_right_eq_some] at hs
    obtain ⟨hcan, hs⟩ := hs
    obtain ⟨osal, hcback, heq⟩ := Option.map_eq_some_iff.mp hs
    obtain ⟨rfl, rfl⟩ := Prod.mk.inj heq
    exact .cback hcan hcback
  | macAlloc buf block =>
    simp only [firmwareMachine, Option.ite_none_right_eq_some, Option.some.injEq,
      Prod.mk.injEq] at hs
    obtain ⟨⟨hfree, hdest⟩, rfl, rfl⟩ := hs
    exact .macAlloc hfree hdest
  | macWrite buf block =>
    simp only [firmwareMachine, Option.ite_none_right_eq_some, Option.some.injEq,
      Prod.mk.injEq] at hs
    obtain ⟨⟨hmem, hdest⟩, rfl, rfl⟩ := hs
    exact .macWrite hmem hdest
  | macFree buf =>
    simp only [firmwareMachine, Option.ite_none_right_eq_some, Option.some.injEq,
      Prod.mk.injEq] at hs
    obtain ⟨hmem, rfl, rfl⟩ := hs
    exact .macFree hmem

end SensorCollector
