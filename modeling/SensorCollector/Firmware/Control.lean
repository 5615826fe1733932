import SensorCollector.AppTask.Send
import SensorCollector.Collector.Membership
import SensorCollector.Device.Polling
import SensorCollector.Firmware.Delivery

set_option relaxedAutoImplicit false
set_option autoImplicit false

/-!
# The firmware and its node

The firmware of a device is a device with its application: whatever the tasks, the timers and the
MAC do, the requests that it makes and the members that decide about them are those of a run of
`appMachine`. The data path only concerns the buffers. In the same way the firmware of a collector
answers the associate indications of the MAC as `membershipMachine` does.

So what holds in the runs of these two machines holds in the firmware.

## Main definitions

* `SensorCollector.controlEvent` — the step of the device that a step of the firmware is.
* `SensorCollector.membershipInd` — the indication that a step of the firmware handles.

## Main results

* `SensorCollector.control_of_exec` — a run of the firmware of a device is one of `appMachine`.
* `SensorCollector.asleep_connected_polls` — a connected device sleeps with its poll timer running.
* `SensorCollector.responses_of_exec` — every associate indication is answered once, in order.
-/

namespace SensorCollector

open EventMachine

/-! ## What is observed -/

/-- A call into the MAC other than a data request. -/
def MacCall.request? : MacCall → Option MacCall
  | .mcpsDataReq _ => none
  | call => some call

/-- A request of a step of the firmware, other than a data request. -/
def FirmwareCall.request? : FirmwareCall → Option MacCall
  | .app (.mac call) => call.request?
  | _ => none

/-- The message that the application has in hand. -/
def Firmware.inHand (s : Firmware) : Option MacCbackMsg :=
  s.pc.hand.bind (messageAt s.osal.heap)

/-! ## The data path -/

namespace AppTask

/-- The first part of an iteration concerns the buffers of the node, and makes data requests only.
-/
theorem send_frame {app app' : AppTask} {ticks later : UInt32} {status : ApiMacStatus}
    {calls : List AppTaskCall} (hs : app.send ticks later status = some (app', calls)) :
    (∃ b, app'.node = app.node.withBase b) ∧
      (calls.map FirmwareCall.app).filterMap FirmwareCall.request? = [] := by
  by_cases hdue : SendDue (getCurrentTime ticks) app.start
  · rw [AppTask.send_of_due hdue, Option.map_eq_some_iff] at hs
    obtain ⟨⟨tr, node'⟩, hx, heq⟩ := hs
    obtain ⟨rfl, rfl⟩ := Prod.mk.inj heq
    constructor
    · refine nodeMachine.exec_induction (P := fun _ _ node => ∃ b, node = app.node.withBase b)
        ⟨app.node.base, (Node.withBase_base _).symm⟩ ?_ hx
      rintro _ _ _ op node'' out _ ⟨b, rfl⟩ hstep
      obtain ⟨b', rfl⟩ := (node_step_frame hstep).1
      exact ⟨b', by cases app.node <;> rfl⟩
    · dsimp only
      split_ifs <;> rfl
  · rw [AppTask.send_of_not_due hdue] at hs
    obtain ⟨rfl, rfl⟩ := Prod.mk.inj (Option.some.inj hs)
    exact ⟨⟨app.node.base, (Node.withBase_base _).symm⟩, rfl⟩

/-- The second part of an iteration concerns the buffers of the node, and makes no requests. -/
theorem receive_frame {app app' : AppTask} {buf : List UInt8} {calls : List AppTaskCall}
    (hs : app.receive buf = some (app', calls)) :
    (∃ b, app'.node = app.node.withBase b) ∧
      (calls.map FirmwareCall.app).filterMap FirmwareCall.request? = [] := by
  simp only [receive] at hs
  split_ifs at hs
  · simp only [Option.bind_eq_bind, Option.bind_eq_some_iff, Option.pure_def, Option.some.injEq,
      Prod.mk.injEq] at hs
    obtain ⟨⟨n, buf', node'⟩, hread, text, -, rfl, rfl⟩ := hs
    refine ⟨?_, rfl⟩
    simp only [Node.readBuf, Option.map_eq_some_iff, Prod.mk.injEq] at hread
    obtain ⟨r, -, -, -, rfl⟩ := hread
    exact ⟨_, rfl⟩
  · obtain ⟨rfl, rfl⟩ := Prod.mk.inj (Option.some.inj hs)
    exact ⟨⟨app.node.base, (Node.withBase_base _).symm⟩, rfl⟩

end AppTask

/-! ## The firmware of a device -/

/-- The step is a data indication. -/
def DeviceStep.isDataInd : DeviceStep → Bool
  | .dataInd _ => true
  | _ => false

/-- The step of a device that a step of the firmware is, if any. A data indication concerns the
buffers and is none. -/
def controlEvent (s : Firmware) : FirmwareStep → Option AppStep
  | .branch =>
    match s.pc with
    | .process (.device e :: _) => some (.branch e)
    | _ => none
  | .scanTimeout => some (.device .scanTimeout)
  | .pollTimeout => some (.device .pollTimeout)
  | .handle _ _ =>
    (s.inHand.bind deviceCallback).bind fun step =>
      if step.isDataInd then none else some (.device step)
  | _ => none

/-- The node of the firmware is this device, apart from its buffers. -/
def Firmware.Controls (s : Firmware) (d : FifteenDotFourDevice) : Prop :=
  ∃ b, s.app.node = .device { d with toFifteenDotFour := b }

/-- The branches of `process` do not depend on the buffers. -/
theorem processBranch_withBase (d : FifteenDotFourDevice) (b : FifteenDotFour) (e : DeviceEvent) :
    FifteenDotFourDevice.processBranch { d with toFifteenDotFour := b } e =
      ({ (d.processBranch e).1 with toFifteenDotFour := b }, (d.processBranch e).2) := by
  have hpending : ∀ f, FifteenDotFourDevice.Pending { d with toFifteenDotFour := b } f ↔
      d.Pending f := fun _ => Iff.rfl
  cases e with
  | join =>
    simp only [FifteenDotFourDevice.processBranch, FifteenDotFourDevice.processJoin, hpending]
    split_ifs <;> rfl
  | accociate =>
    simp only [FifteenDotFourDevice.processBranch, FifteenDotFourDevice.processAccociate, hpending]
    split_ifs <;> rfl
  | idle =>
    simp only [FifteenDotFourDevice.processBranch, FifteenDotFourDevice.processIdle, hpending]
    by_cases hidle : d.Pending .idle
    · rw [if_pos hidle, if_pos hidle]
      obtain ⟨base, channel, panID, revents, panIdMatch, coordShortAddr, connected, pollClk,
        scanClk⟩ := d
      cases connected <;> rfl
    · rw [if_neg hidle, if_neg hidle]
  | poll =>
    simp only [FifteenDotFourDevice.processBranch, FifteenDotFourDevice.processPoll, hpending]
    split_ifs <;> rfl

/-- The steps of a device other than data indications do not depend on the buffers. -/
theorem deviceMachine_step_withBase (d : FifteenDotFourDevice) (b : FifteenDotFour)
    {step : DeviceStep} (hstep : step.isDataInd = false) :
    deviceMachine.step { d with toFifteenDotFour := b } step =
      (deviceMachine.step d step).map fun r => ({ r.1 with toFifteenDotFour := b }, r.2) := by
  cases step with
  | connect | associateCnf _ => rfl
  | dataInd _ => cases hstep
  | process =>
    have hjoin := processBranch_withBase d b .join
    have haccociate := processBranch_withBase d.processJoin.1 b .accociate
    have hidle := processBranch_withBase d.processJoin.1.processAccociate.1 b .idle
    have hpoll := processBranch_withBase d.processJoin.1.processAccociate.1.processIdle.1 b .poll
    simp only [FifteenDotFourDevice.processBranch] at hjoin haccociate hidle hpoll
    simp only [deviceMachine, FifteenDotFourDevice.process, hjoin, haccociate, hidle, hpoll]
    rfl
  | scanTimeout =>
    simp only [deviceMachine]
    split_ifs <;> rfl
  | pollTimeout =>
    simp only [deviceMachine]
    split_ifs <;> rfl
  | scanCnf status =>
    simp only [deviceMachine, FifteenDotFourDevice.scanCnfCB]
    by_cases hstatus : status = .success
    · rw [if_pos hstatus, if_pos hstatus]
      obtain ⟨base, channel, panID, revents, panIdMatch, coordShortAddr, connected, pollClk,
        scanClk⟩ := d
      cases panIdMatch <;> rfl
    · rw [if_neg hstatus, if_neg hstatus]
      obtain ⟨base, channel, panID, revents, panIdMatch, coordShortAddr, connected, pollClk,
        ⟨active, timeout⟩⟩ := d
      cases active <;> rfl
  | pollCnf status =>
    simp only [deviceMachine, FifteenDotFourDevice.pollCnfCb]
    split_ifs <;> rfl
  | dataCnf status =>
    simp only [deviceMachine, FifteenDotFourDevice.dataCnfCB]
    split_ifs <;> rfl
  | beaconNotifyInd pData =>
    have hadopts : FifteenDotFourDevice.Adopts { d with toFifteenDotFour := b } pData ↔
        d.Adopts pData := Iff.rfl
    simp only [deviceMachine, FifteenDotFourDevice.beaconNotifyIndCb_eq, hadopts]
    split_ifs <;> rfl

/-- The callback of a device for a message, if it is a data indication or there is none. -/
theorem incoming_of_not_control {d : FifteenDotFourDevice} {device : AssociationDevice}
    {status : ApiMacAssocStatus} {msg : MacCbackMsg} {node : Node} {calls : List MacCall}
    (hnode : (Node.device d).incoming device status msg = some (node, calls))
    (hmsg : ∀ step, deviceCallback msg = some step → step.isDataInd = true) :
    calls = [] ∧ ∃ b, node = .device { d with toFifteenDotFour := b } := by
  rw [Node.incoming] at hnode
  cases hcallback : deviceCallback msg with
  | none =>
    simp only [hcallback] at hnode
    obtain ⟨rfl, rfl⟩ := Prod.mk.inj (Option.some.inj hnode)
    exact ⟨rfl, d.toFifteenDotFour, rfl⟩
  | some step =>
    simp only [hcallback, Option.map_eq_some_iff, Prod.mk.injEq] at hnode
    obtain ⟨⟨d', out⟩, hstep, rfl, rfl⟩ := hnode
    have hind := hmsg step hcallback
    cases step with
    | dataInd pDataInd =>
      simp only [deviceMachine, Option.map_eq_some_iff, Prod.mk.injEq] at hstep
      obtain ⟨d'', hdata, rfl, rfl⟩ := hstep
      exact ⟨rfl, d''.toFifteenDotFour, congrArg _ (d.dataIndCB_frame hdata)⟩
    | _ => cases hind

/-- The message that the application has in hand is the one that it handles. -/
theorem inHand_of_handling {s : Firmware} {pMsg : Addr} {block : MsgBlock MacBody}
    {msg : MacCbackMsg} (hpc : s.pc = .handling (some pMsg))
    (hblock : s.osal.heap pMsg = some block) (hmsg : block.body = .cback msg) :
    s.inHand = some msg := by
  have hat : messageAt s.osal.heap pMsg = some msg := by
    rw [messageAt_eq_some_iff, Heap.body, hblock, Option.map_some, hmsg]
  rw [Firmware.inHand, hpc]
  exact hat

/-- The requests among the calls of the node. -/
theorem filterMap_request (calls : List MacCall) :
    (calls.map fun call => FirmwareCall.app (.mac call)).filterMap FirmwareCall.request? =
      calls.filterMap MacCall.request? := by
  rw [List.filterMap_map]
  rfl

/-- **One step** of the firmware of a device is a step of the device with its application, or does
not concern more than its buffers. -/
theorem Firmware.Controls.step {s s' : Firmware} {d : FifteenDotFourDevice} {step : FirmwareStep}
    {out : List FirmwareCall} (h : s.Controls d)
    (hs : firmwareMachine.step s step = some (s', out)) :
    match controlEvent s step with
    | none => s'.Controls d ∧ out.filterMap FirmwareCall.request? = []
    | some e => ∃ d' calls, appMachine.step d e = some (d', calls) ∧ s'.Controls d' ∧
      out.filterMap FirmwareCall.request? = calls.filterMap MacCall.request? := by
  obtain ⟨b, hb⟩ := h
  cases firmwareStepsTo_of_step hs with
  | send hpc hsend =>
    obtain ⟨⟨b', hnode⟩, hout⟩ := AppTask.send_frame hsend
    rw [hb] at hnode
    exact ⟨⟨b', hnode⟩, hout⟩
  | receive hpc hreceive =>
    obtain ⟨⟨b', hnode⟩, hout⟩ := AppTask.receive_frame hreceive
    rw [hb] at hnode
    exact ⟨⟨b', hnode⟩, hout⟩
  | @branch nb todo node calls hpc hrun =>
    rw [hb] at hrun
    cases nb with
    | start | «open» => cases hrun
    | device e =>
      simp only [Node.runBranch, processBranch_withBase, Option.some.injEq, Prod.mk.injEq] at hrun
      obtain ⟨rfl, rfl⟩ := hrun
      simp only [controlEvent, hpc]
      exact ⟨_, _, rfl, ⟨b, rfl⟩, filterMap_request _⟩
  | nothing device status hpc =>
    have hnone : s.inHand = none := by
      rw [Firmware.inHand, hpc]
      rfl
    simp only [controlEvent, hnone, Option.bind_none]
    exact ⟨⟨b, hb⟩, rfl⟩
  | @handle device status pMsg block msg node calls heap₁ heap st hpc hblock hmsg hnode hattached
      hfree =>
    rw [hb] at hnode
    simp only [controlEvent, inHand_of_handling hpc hblock hmsg, Option.bind_some]
    by_cases hcontrol : ∃ step, deviceCallback msg = some step ∧ step.isDataInd = false
    · obtain ⟨step, hcallback, hind⟩ := hcontrol
      simp only [hcallback, Option.bind_some, hind, Bool.false_eq_true, if_false]
      simp only [Node.incoming, hcallback, deviceMachine_step_withBase d b hind, Option.map_map,
        Option.map_eq_some_iff, Function.comp_apply, Prod.mk.injEq] at hnode
      obtain ⟨⟨d', out⟩, hstep, rfl, rfl⟩ := hnode
      exact ⟨d', out, hstep, ⟨b, rfl⟩, filterMap_request out⟩
    · obtain ⟨rfl, b', rfl⟩ := incoming_of_not_control hnode fun step hcallback => by
        by_contra hind
        exact hcontrol ⟨step, hcallback, Bool.eq_false_iff.mpr hind⟩
      have hnone : (deviceCallback msg).bind (fun step =>
          if step.isDataInd then none else some (AppStep.device step)) = none := by
        rw [Option.bind_eq_none_iff]
        intro step hcallback
        refine if_pos ?_
        by_contra hind
        exact hcontrol ⟨step, hcallback, Bool.eq_false_iff.mpr hind⟩
      rw [hnone]
      exact ⟨⟨b', rfl⟩, rfl⟩
  | @timeout _ t d₁ d' calls osal htimer hnode hstep hpost =>
    obtain rfl : d₁ = { d with toFifteenDotFour := b } := Node.device.inj (hnode.symm.trans hb)
    have hind : t.isDataInd = false := by
      rcases htimer with ⟨-, rfl⟩ | ⟨-, rfl⟩ <;> rfl
    rw [deviceMachine_step_withBase d b hind, Option.map_eq_some_iff] at hstep
    obtain ⟨⟨d'', out⟩, hstep, heq⟩ := hstep
    obtain ⟨rfl, rfl⟩ := Prod.mk.inj heq
    rcases htimer with ⟨rfl, rfl⟩ | ⟨rfl, rfl⟩
    · cases stepsTo_of_step hstep with
      | scanTimeout _ => exact ⟨_, [], hstep, ⟨b, rfl⟩, rfl⟩
    · cases stepsTo_of_step hstep with
      | pollTimeout _ => exact ⟨_, [], hstep, ⟨b, rfl⟩, rfl⟩
  | _ => exact ⟨⟨b, hb⟩, rfl⟩

/-- **The firmware of a device is a device with its application.** Every run of the firmware,
whatever the tasks, the timers and the MAC do between its branches and callbacks, is a run of
`appMachine`, in which no setter is called: it makes the same requests, apart from data requests,
and ends with the same members, apart from the buffers.

**Proof sketch.** A branch of `process` is a step of the same name. A timer and the callback of a
message is a step of the device, with the data indications left out. The two parts of an iteration
are for the buffers only. -/
theorem control_of_exec {d₀ : FifteenDotFourDevice} {start : UInt32} {steps : List FirmwareStep}
    {tr : List FirmwareTransition} {s : Firmware}
    (hx : firmwareMachine.exec (.boot ⟨.device d₀, start⟩) steps = some (tr, s)) :
    ∃ trA d, appMachine.exec d₀ (tr.filterMap fun u => controlEvent u.pre u.event) =
        some (trA, d) ∧ s.Controls d ∧
      (trA.flatMap fun t => t.out.filterMap MacCall.request?) =
        tr.flatMap fun u => u.out.filterMap FirmwareCall.request? := by
  refine exec_of_abstracts (R := Firmware.Controls) (f := controlEvent) ?_
    ⟨d₀.toFifteenDotFour, rfl⟩ hx
  intro s step s' out d h hs
  have hstep := h.step hs
  cases hevent : controlEvent s step with
  | none =>
    rw [hevent] at hstep
    exact hstep
  | some e =>
    rw [hevent] at hstep
    exact hstep

/-- The MAC confirms the association of a device, which handles it, leaves its first loop and goes
to sleep again. -/
def sampleJoin : List FirmwareStep :=
  sampleIdle ++ .cback 0 ⟨0, .associateCnf⟩ (some 5) none :: sampleRound ++
    [.join 0, .send 0 0 .success, .receive (List.replicate bufSize 0) (by decide), .branch, .branch,
      .branch, .branch, .test]

/-- The run of a device that is associated. -/
theorem control_of_exec_associated :
    ∃ tr s trA d, firmwareMachine.exec sampleBoot sampleJoin = some (tr, s) ∧
      appMachine.exec sampleDevice (tr.filterMap fun u => controlEvent u.pre u.event) =
        some (trA, d) ∧ s.Controls d ∧
      (trA.flatMap fun t => t.out.filterMap MacCall.request?) =
        tr.flatMap fun u => u.out.filterMap FirmwareCall.request? := by
  have hpc : (firmwareMachine.exec sampleBoot sampleJoin).map (fun r => r.2.pc) =
      some .waiting := by decide +kernel
  obtain ⟨tr, s, hx, -⟩ := exists_exec_of_pc hpc
  obtain ⟨trA, d, hxA, hd, hout⟩ := control_of_exec hx
  exact ⟨tr, s, trA, d, hx, hxA, hd, hout⟩

/-- **A connected device sleeps with its poll timer running**: in every run of the firmware of a
device that is not connected at the start, and in which no timer expires inside a branch or a
callback, if the application sleeps and the device is connected, its poll timer is active, and so
the application will wake up.

**Proof sketch.** The next poll of a connected device is coming: its timer is active or one of two
events is set. An application that sleeps has no event set. -/
theorem asleep_connected_polls {d₀ d : FifteenDotFourDevice} {start : UInt32}
    {steps : List FirmwareStep} {tr : List FirmwareTransition} {s : Firmware}
    (h0 : d₀.connected = false)
    (hx : firmwareMachine.exec (.boot ⟨.device d₀, start⟩) steps = some (tr, s))
    (hasleep : s.Asleep) (hnode : s.app.node = .device d) (hconn : d.connected = true) :
    d.pollClkStruct.active = true := by
  have hkeeps : ∃ d', s.Controls d' ∧ KeepsPolling d' := by
    refine firmwareMachine.exec_induction (P := fun _ _ s => ∃ d', s.Controls d' ∧ KeepsPolling d')
      ⟨d₀, ⟨d₀.toFifteenDotFour, rfl⟩, fun htrue => ?_⟩ ?_ hx
    · rw [h0] at htrue
      cases htrue
    · rintro _ _ s step s' out _ ⟨d', hd', hkeeps⟩ hs
      have hstep := hd'.step hs
      cases hevent : controlEvent s step with
      | none =>
        rw [hevent] at hstep
        exact ⟨d', hstep.1, hkeeps⟩
      | some e =>
        rw [hevent] at hstep
        obtain ⟨d'', calls, hstep, hd'', -⟩ := hstep
        exact ⟨d'', hd'', hkeeps.step hstep⟩
  obtain ⟨d', ⟨b, hb⟩, hkeeps⟩ := hkeeps
  obtain rfl : d = { d' with toFifteenDotFour := b } := Node.device.inj (hnode.symm.trans hb)
  have hrevents : d'.revents = 0 := by
    have hidle := sleepsIdle_of_exec hx hasleep
    rw [hb] at hidle
    exact hidle
  have hnone : ∀ e, ¬ d'.Pending e := by
    intro e
    rw [FifteenDotFourDevice.Pending, hrevents]
    simp [FlagBits.IsSet]
  rcases hkeeps hconn with hactive | hidle | hpoll
  · exact hactive
  · exact absurd hidle (hnone .idle)
  · exact absurd hpoll (hnone .poll)

/-- A device that has been associated and sleeps. -/
theorem asleep_connected_polls_associated :
    ∃ tr s d, firmwareMachine.exec sampleBoot sampleJoin = some (tr, s) ∧ s.Asleep ∧
      s.app.node = .device d ∧ d.connected = true ∧ d.pollClkStruct.active = true := by
  have hend : (firmwareMachine.exec sampleBoot sampleJoin).map
      (fun r => (r.2.pc, (r.2.osal.semPend appTaskIdx).isNone, r.2.app.node.isConnected)) =
      some (.waiting, true, some true) := by decide +kernel
  obtain ⟨⟨tr, s⟩, hx, hs⟩ := Option.map_eq_some_iff.mp hend
  obtain ⟨hpc, hs⟩ := Prod.mk.inj hs
  obtain ⟨hpend, hconn⟩ := Prod.mk.inj hs
  have hasleep : s.Asleep := ⟨hpc, Option.isNone_iff_eq_none.mp hpend⟩
  obtain ⟨d, hnode, hconn⟩ : ∃ d, s.app.node = .device d ∧ d.connected = true := by
    cases hnode : s.app.node with
    | collector c =>
      rw [show (tr, s).2.app.node = _ from hnode] at hconn
      cases hconn
    | device d =>
      rw [show (tr, s).2.app.node = _ from hnode] at hconn
      exact ⟨d, rfl, Option.some.inj hconn⟩
  exact ⟨tr, s, d, hx, hasleep, hnode, hconn,
    asleep_connected_polls rfl hx hasleep hnode hconn⟩

/-! ## The firmware of a collector -/

/-- An associate response. -/
def MacCall.response? : MacCall → Option ApiMacMlmeAssociateRsp
  | .mlmeAssociateRsp rsp => some rsp
  | _ => none

/-- An associate response of a step of the firmware. -/
def FirmwareCall.response? : FirmwareCall → Option ApiMacMlmeAssociateRsp
  | .app (.mac call) => call.response?
  | _ => none

/-- An associate response is a request other than a data request. -/
theorem response_eq_bind (call : FirmwareCall) :
    call.response? = call.request?.bind MacCall.response? := by
  rcases call with (call | text) | msg
  · cases call <;> rfl
  · rfl
  · rfl

/-- A step without requests has no responses. -/
theorem filterMap_response_eq_nil {out : List FirmwareCall}
    (h : out.filterMap FirmwareCall.request? = []) :
    out.filterMap FirmwareCall.response? = [] := by
  rw [List.filterMap_eq_nil_iff] at h ⊢
  intro call hcall
  rw [response_eq_bind, h call hcall, Option.bind_none]

/-- The responses among the calls of the node. -/
theorem filterMap_response (calls : List MacCall) :
    (calls.map fun call => FirmwareCall.app (.mac call)).filterMap FirmwareCall.response? =
      calls.filterMap MacCall.response? := by
  rw [List.filterMap_map]
  rfl

/-- The indication of a step of the collector, if it is one about membership. -/
def CollectorStep.membershipInd : CollectorStep → Option MembershipInd
  | .assocInd pData device status => some (.assoc pData device status)
  | .disassocInd pData => some (.disassoc pData)
  | _ => none

/-- The indication about membership that a step of the firmware handles, if any. -/
def membershipInd (s : Firmware) : FirmwareStep → Option MembershipInd
  | .handle device status =>
    s.inHand.bind fun msg => (collectorCallback device status msg).bind
      CollectorStep.membershipInd
  | _ => none

/-- The associate indication of a message that is handled. With the status `MAC_BAD_STATE` its
callback is not called. -/
def MacCbackMsg.assocData (msg : MacCbackMsg) : Option ApiMacMlmeAssociateInd :=
  if msg.status = macBadState then none
  else
    match msg.event with
    | .associateInd deviceAddress capabilityInformation =>
      some ⟨deviceAddress, apiMacBuildMsgCapInfo capabilityInformation⟩
    | _ => none

/-- The node of the firmware is this collector, apart from its buffers and its events. -/
def Firmware.Admits (s : Firmware) (c : FifteenDotFourCollector) : Prop :=
  ∃ b revents, s.app.node = .collector { c with toFifteenDotFour := b, revents := revents }

/-- Adding a device does not depend on the buffers and the events. -/
theorem addDevice_withBase (c : FifteenDotFourCollector) (b : FifteenDotFour)
    (revents : BitVec 16) (device : AssociationDevice) (pData : ApiMacMlmeAssociateInd) :
    FifteenDotFourCollector.addDevice { c with toFifteenDotFour := b, revents := revents }
        device pData =
      ((c.addDevice device pData).1, (c.addDevice device pData).2.1,
        { (c.addDevice device pData).2.2 with toFifteenDotFour := b, revents := revents }) := by
  have hentry : FifteenDotFourCollector.newEntry
      { c with toFifteenDotFour := b, revents := revents } device pData =
      c.newEntry device pData := rfl
  unfold FifteenDotFourCollector.addDevice
  simp only [hentry]
  cases c.associationTable.place? (fun entry => decide entry.Free) (c.newEntry device pData) with
  | some table => rfl
  | none =>
    cases c.associationTable.place? (fun entry => decide (entry.status = assocStatusDead))
        (c.newEntry device pData) with
    | some table => rfl
    | none => rfl

/-- The associate callback does not depend on the buffers and the events. -/
theorem assocIndCb_withBase (c : FifteenDotFourCollector) (b : FifteenDotFour)
    (revents : BitVec 16) (device : AssociationDevice) (status : ApiMacAssocStatus)
    (pData : ApiMacMlmeAssociateInd) :
    FifteenDotFourCollector.assocIndCb { c with toFifteenDotFour := b, revents := revents }
        device status pData =
      ({ (c.assocIndCb device status pData).1 with toFifteenDotFour := b, revents := revents },
        (c.assocIndCb device status pData).2) := by
  have hsame : FifteenDotFourCollector.findDevice
      { c with toFifteenDotFour := b, revents := revents } device pData.deviceAddress =
      c.findDevice device pData.deviceAddress := rfl
  rcases hfind : c.findDevice device pData.deviceAddress with ⟨found, device'⟩
  rw [hfind] at hsame
  cases found with
  | true =>
    rw [FifteenDotFourCollector.assocIndCb_of_found _ device status hsame,
      c.assocIndCb_of_found device status hfind]
  | false =>
    have hadd₁ := addDevice_withBase c b revents device' pData
    rcases hadd : c.addDevice device' pData with ⟨added, e, c'⟩
    rw [hadd] at hadd₁
    cases added with
    | true =>
      rw [FifteenDotFourCollector.assocIndCb_of_added _ device status hsame hadd₁,
        c.assocIndCb_of_added device status hfind hadd]
    | false =>
      rw [FifteenDotFourCollector.assocIndCb_of_refused _ device status hsame hadd₁,
        c.assocIndCb_of_refused device status hfind hadd]

/-- The callback of a collector for a message is a step of `membershipMachine`, or concerns the
buffers and the events only. -/
theorem Firmware.Admits.incoming {c : FifteenDotFourCollector} {b : FifteenDotFour}
    {revents : BitVec 16} {device : AssociationDevice} {status : ApiMacAssocStatus}
    {msg : MacCbackMsg} {node : Node} {calls : List MacCall}
    (hnode : (Node.collector { c with toFifteenDotFour := b, revents := revents }).incoming
      device status msg = some (node, calls)) :
    match (collectorCallback device status msg).bind CollectorStep.membershipInd with
    | none => (∃ b revents,
        node = .collector { c with toFifteenDotFour := b, revents := revents }) ∧
      calls.filterMap MacCall.response? = []
    | some ind => ∃ c' calls', membershipMachine.step c ind = some (c', calls') ∧
      (∃ b revents, node = .collector { c' with toFifteenDotFour := b, revents := revents }) ∧
      calls.filterMap MacCall.response? = calls'.filterMap MacCall.response? := by
  rw [Node.incoming] at hnode
  cases hcallback : collectorCallback device status msg with
  | none =>
    simp only [hcallback] at hnode
    obtain ⟨rfl, rfl⟩ := Prod.mk.inj (Option.some.inj hnode)
    exact ⟨⟨b, revents, rfl⟩, rfl⟩
  | some step =>
    simp only [hcallback, Option.map_eq_some_iff, Prod.mk.injEq] at hnode
    obtain ⟨⟨c', out⟩, hstep, rfl, rfl⟩ := hnode
    cases step with
    | assocInd pData device status =>
      simp only [collectorMachine, assocIndCb_withBase, Option.some.injEq, Prod.mk.injEq] at hstep
      obtain ⟨rfl, rfl⟩ := hstep
      exact ⟨_, _, rfl, ⟨b, revents, rfl⟩, rfl⟩
    | disassocInd pData =>
      obtain ⟨rfl, rfl⟩ := Prod.mk.inj (Option.some.inj hstep)
      exact ⟨_, _, rfl, ⟨b, revents, rfl⟩, rfl⟩
    | startCnf status =>
      obtain ⟨rfl, rfl⟩ := Prod.mk.inj (Option.some.inj hstep)
      exact ⟨⟨b, _, rfl⟩, rfl⟩
    | start => exact absurd hcallback (collectorCallback_ne device status msg).1
    | process => exact absurd hcallback (collectorCallback_ne device status msg).2
    | dataInd pDataInd =>
      simp only [collectorMachine, Option.map_eq_some_iff, Prod.mk.injEq] at hstep
      obtain ⟨c'', hdata, rfl, rfl⟩ := hstep
      rw [FifteenDotFourCollector.dataIndCB, Option.map_eq_some_iff] at hdata
      obtain ⟨b', -, rfl⟩ := hdata
      exact ⟨⟨b', revents, rfl⟩, rfl⟩

/-- A branch of `process` of a collector concerns the events only. -/
theorem runBranch_collector {c : FifteenDotFourCollector} {nb : NodeBranch} {node : Node}
    {calls : List MacCall} (hrun : (Node.collector c).runBranch nb = some (node, calls)) :
    (∃ revents, node = .collector { c with revents := revents }) ∧
      calls.filterMap MacCall.response? = [] := by
  cases nb with
  | start =>
    obtain ⟨rfl, rfl⟩ := Prod.mk.inj (Option.some.inj hrun)
    unfold FifteenDotFourCollector.processStart
    split_ifs
    · exact ⟨⟨_, rfl⟩, rfl⟩
    · exact ⟨⟨c.revents, rfl⟩, rfl⟩
  | «open» =>
    obtain ⟨rfl, rfl⟩ := Prod.mk.inj (Option.some.inj hrun)
    unfold FifteenDotFourCollector.processOpen
    split_ifs
    · exact ⟨⟨_, rfl⟩, rfl⟩
    · exact ⟨⟨c.revents, rfl⟩, rfl⟩
  | device e => cases hrun

/-- **One step** of the firmware of a collector is a step of `membershipMachine`, or does not
concern more than its buffers and its events. -/
theorem Firmware.Admits.step {s s' : Firmware} {c : FifteenDotFourCollector} {step : FirmwareStep}
    {out : List FirmwareCall} (h : s.Admits c)
    (hs : firmwareMachine.step s step = some (s', out)) :
    match membershipInd s step with
    | none => s'.Admits c ∧ out.filterMap FirmwareCall.response? = []
    | some ind => ∃ c' calls, membershipMachine.step c ind = some (c', calls) ∧ s'.Admits c' ∧
      out.filterMap FirmwareCall.response? = calls.filterMap MacCall.response? := by
  obtain ⟨b, revents, hb⟩ := h
  cases firmwareStepsTo_of_step hs with
  | send hpc hsend =>
    obtain ⟨⟨b', hnode⟩, hout⟩ := AppTask.send_frame hsend
    rw [hb] at hnode
    exact ⟨⟨b', revents, hnode⟩, filterMap_response_eq_nil hout⟩
  | receive hpc hreceive =>
    obtain ⟨⟨b', hnode⟩, hout⟩ := AppTask.receive_frame hreceive
    rw [hb] at hnode
    exact ⟨⟨b', revents, hnode⟩, filterMap_response_eq_nil hout⟩
  | @branch nb todo node calls hpc hrun =>
    rw [hb] at hrun
    obtain ⟨⟨revents', rfl⟩, hout⟩ := runBranch_collector hrun
    exact ⟨⟨b, revents', rfl⟩, (filterMap_response calls).trans hout⟩
  | nothing device status hpc =>
    have hnone : s.inHand = none := by
      rw [Firmware.inHand, hpc]
      rfl
    simp only [membershipInd, hnone, Option.bind_none]
    exact ⟨⟨b, revents, hb⟩, rfl⟩
  | @handle device status pMsg block msg node calls heap₁ heap st hpc hblock hmsg hnode hattached
      hfree =>
    rw [hb] at hnode
    simp only [membershipInd, inHand_of_handling hpc hblock hmsg, Option.bind_some]
    have hincoming := Firmware.Admits.incoming hnode
    have hout : (FirmwareCall.incoming msg :: calls.map fun call =>
        FirmwareCall.app (.mac call)).filterMap FirmwareCall.response? =
        calls.filterMap MacCall.response? := filterMap_response calls
    cases hind : (collectorCallback device status msg).bind CollectorStep.membershipInd with
    | none =>
      rw [hind] at hincoming
      obtain ⟨hadmits, hcalls⟩ := hincoming
      exact ⟨hadmits, hout.trans hcalls⟩
    | some ind =>
      rw [hind] at hincoming
      obtain ⟨c', calls', hstep, hadmits, hcalls⟩ := hincoming
      exact ⟨c', calls', hstep, hadmits, hout.trans hcalls⟩
  | timeout htimer hnode hstep hpost => cases hnode.symm.trans hb
  | @cback pData msg block retry osal hcan hcback => exact ⟨⟨b, revents, hb⟩, rfl⟩
  | _ => exact ⟨⟨b, revents, hb⟩, rfl⟩

/-- The associate indication of a message is the one its callback is called with. -/
theorem assocData_eq_bind (device : AssociationDevice) (status : ApiMacAssocStatus)
    (msg : MacCbackMsg) :
    msg.assocData = ((collectorCallback device status msg).bind CollectorStep.membershipInd).bind
      MembershipInd.assocData := by
  obtain ⟨hdrStatus, event⟩ := msg
  rw [MacCbackMsg.assocData, collectorCallback]
  dsimp only
  split_ifs
  · rfl
  · cases event <;> rfl

/-- The associate indication that a step handles is that of its message. -/
theorem assocData_of_step {s s' : Firmware} {step : FirmwareStep} {out : List FirmwareCall}
    (hs : firmwareMachine.step s step = some (s', out)) :
    ((membershipInd s step).bind MembershipInd.assocData).toList =
      (out.filterMap FirmwareCall.incoming?).filterMap MacCbackMsg.assocData := by
  cases firmwareStepsTo_of_step hs with
  | @send ticks later status app calls hpc hsend =>
    exact congrArg (List.filterMap MacCbackMsg.assocData)
      (Firmware.Sound.filterMap_app id calls).symm
  | @receive buf hbuf app calls hpc hreceive =>
    exact congrArg (List.filterMap MacCbackMsg.assocData)
      (Firmware.Sound.filterMap_app id calls).symm
  | @branch nb todo node calls hpc hrun =>
    exact congrArg (List.filterMap MacCbackMsg.assocData)
      (Firmware.Sound.filterMap_app AppTaskCall.mac calls).symm
  | nothing device status hpc =>
    have hnone : s.inHand = none := by
      rw [Firmware.inHand, hpc]
      rfl
    simp only [membershipInd, hnone, Option.bind_none]
    rfl
  | @handle device status pMsg block msg node calls heap₁ heap st hpc hblock hmsg hnode hattached
      hfree =>
    rw [membershipInd, inHand_of_handling hpc hblock hmsg, Option.bind_some,
      ← assocData_eq_bind device status msg, List.filterMap_cons]
    simp only [FirmwareCall.incoming?, Firmware.Sound.filterMap_app, List.filterMap_cons,
      List.filterMap_nil]
    cases msg.assocData <;> rfl
  | timeout htimer hnode hstep hpost => rcases htimer with ⟨rfl, -⟩ | ⟨rfl, -⟩ <;> rfl
  | _ => rfl

/-- The associate indications among the indications that a run handles are those of its messages. -/
theorem assocInds_membershipInds {steps : List FirmwareStep} {s₀ s : Firmware}
    {tr : List FirmwareTransition} (hx : firmwareMachine.exec s₀ steps = some (tr, s)) :
    assocInds (tr.filterMap fun u => membershipInd u.pre u.event) =
      (handled tr).filterMap MacCbackMsg.assocData := by
  refine firmwareMachine.exec_induction (P := fun _ tr _ =>
    assocInds (tr.filterMap fun u => membershipInd u.pre u.event) =
      (handled tr).filterMap MacCbackMsg.assocData) rfl ?_ hx
  intro _ tr s step s' out _ ih hs
  have hstep := assocData_of_step hs
  rw [handled, List.flatMap_append, List.filterMap_append, List.filterMap_append, assocInds,
    List.filterMap_append]
  refine congrArg₂ (· ++ ·) ih ?_
  rw [List.flatMap_singleton, ← hstep]
  cases hind : membershipInd s step with
  | none => simp [hind]
  | some ind => cases hdata : ind.assocData <;> simp [hind, hdata]

/-- **Every associate indication is answered once, in order.** In every run of the firmware of a
collector, whatever the tasks and the MAC do, the associate responses are those of a run of
`membershipMachine`, which ends with the same table. The associate indications of that run are those
that the MAC has sent, except those that wait to be handled and those with the status
`MAC_BAD_STATE`, which are not answered. -/
theorem responses_of_exec {c₀ : FifteenDotFourCollector} {start : UInt32}
    {steps : List FirmwareStep} {tr : List FirmwareTransition} {s : Firmware}
    (hx : firmwareMachine.exec (.boot ⟨.collector c₀, start⟩) steps = some (tr, s)) :
    ∃ inds trM c boxed, membershipMachine.exec c₀ inds = some (trM, c) ∧ s.Admits c ∧
      (trM.flatMap fun t => t.out.filterMap MacCall.response?) =
        (tr.flatMap fun u => u.out.filterMap FirmwareCall.response?) ∧
      s.Holding boxed ∧
      (steps.filterMap FirmwareStep.posted).filterMap MacCbackMsg.assocData =
        assocInds inds ++ (boxed.map Prod.snd).filterMap MacCbackMsg.assocData := by
  obtain ⟨trM, c, hxM, hadmits, hout⟩ : ∃ trM c, membershipMachine.exec c₀
        (tr.filterMap fun u => membershipInd u.pre u.event) = some (trM, c) ∧ s.Admits c ∧
      (trM.flatMap fun t => t.out.filterMap MacCall.response?) =
        tr.flatMap fun u => u.out.filterMap FirmwareCall.response? := by
    refine exec_of_abstracts (R := Firmware.Admits) (f := membershipInd) ?_
      ⟨c₀.toFifteenDotFour, c₀.revents, rfl⟩ hx
    intro s step s' out c h hs
    have hstep := h.step hs
    cases hind : membershipInd s step with
    | none =>
      rw [hind] at hstep
      exact hstep
    | some ind =>
      rw [hind] at hstep
      exact hstep
  obtain ⟨b, hsound, hposted⟩ := posted_of_exec hx
  refine ⟨_, trM, c, b.messages, hxM, hadmits, hout, hsound.holding, ?_⟩
  rw [hposted, List.filterMap_append, assocInds_membershipInds hx]

/-- A collector that has just been constructed, at its start. -/
def sampleCollectorBoot : Firmware := .boot ⟨.collector sampleCollector, 0⟩

/-- One iteration of the loop of a collector that has nothing to do, up to its sleep. -/
def sampleIteration : List FirmwareStep :=
  [.send 0 0 .success, .receive (List.replicate bufSize 0) (by decide), .branch, .branch, .test]

/-- A collector that answers an associate indication, with another one in its queue. -/
theorem responses_of_exec_two :
    ∃ tr s inds trM c boxed, firmwareMachine.exec sampleCollectorBoot
        (sampleIteration ++
          .cback 0 ⟨0, .associateInd (Vector.replicate _ 1) 0⟩ (some 5) none ::
          .cback 0 ⟨0, .associateInd (Vector.replicate _ 2) 0⟩ (some 6) none ::
          sampleRound) = some (tr, s) ∧
      membershipMachine.exec sampleCollector inds = some (trM, c) ∧ s.Admits c ∧
      (trM.flatMap fun t => t.out.filterMap MacCall.response?) =
        (tr.flatMap fun u => u.out.filterMap FirmwareCall.response?) ∧
      s.Holding boxed ∧
      [⟨Vector.replicate _ 1, apiMacBuildMsgCapInfo 0⟩,
          ⟨Vector.replicate _ 2, apiMacBuildMsgCapInfo 0⟩] =
        assocInds inds ++ (boxed.map Prod.snd).filterMap MacCbackMsg.assocData := by
  have hpc : (firmwareMachine.exec sampleCollectorBoot (sampleIteration ++
      .cback 0 ⟨0, .associateInd (Vector.replicate _ 1) 0⟩ (some 5) none ::
      .cback 0 ⟨0, .associateInd (Vector.replicate _ 2) 0⟩ (some 6) none ::
      sampleRound)).map (fun r => r.2.pc) = some .send := by decide +kernel
  obtain ⟨tr, s, hx, -⟩ := exists_exec_of_pc hpc
  obtain ⟨inds, trM, c, boxed, hxM, hadmits, hout, hboxed, hinds⟩ := responses_of_exec hx
  exact ⟨tr, s, inds, trM, c, boxed, hx, hxM, hadmits, hout, hboxed, hinds⟩

end SensorCollector
