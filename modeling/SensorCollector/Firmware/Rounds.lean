import SensorCollector.Collector.Opening
import SensorCollector.Firmware.Control

set_option relaxedAutoImplicit false
set_option autoImplicit false

/-!
# The rounds of the loop

What the application sends, and how often. Every message carries the two texts of the application.
A collector does not send one every five seconds: its loop goes round only after the application has
been woken up, and a collector has no timers, so the messages of the MAC are what drives it.

## Main definitions

* `SensorCollector.Drained` — the events that a collector can have set at a place in its loop.

## Main results

* `SensorCollector.dataReq_of_exec` — every data request carries both texts.
* `SensorCollector.sends_le` — a collector goes round its loop once for each message of the MAC.
-/

namespace SensorCollector

open EventMachine

/-! ## What is sent -/

/-- The branches of `process` make no data requests. -/
theorem request_of_runBranch {node node' : Node} {nb : NodeBranch} {calls : List MacCall}
    (hrun : node.runBranch nb = some (node', calls)) (dataReq : ApiMacMcpsDataReq) :
    .mcpsDataReq dataReq ∉ calls := by
  cases node with
  | collector c =>
    cases nb with
    | device e => cases hrun
    | start =>
      obtain ⟨-, rfl⟩ := Prod.mk.inj (Option.some.inj hrun)
      unfold FifteenDotFourCollector.processStart
      split_ifs <;> simp
    | «open» =>
      obtain ⟨-, rfl⟩ := Prod.mk.inj (Option.some.inj hrun)
      unfold FifteenDotFourCollector.processOpen
      split_ifs <;> simp
  | device d =>
    cases nb with
    | start | «open» => cases hrun
    | device e =>
      obtain ⟨-, rfl⟩ := Prod.mk.inj (Option.some.inj hrun)
      cases e with
      | join =>
        rw [FifteenDotFourDevice.processBranch, FifteenDotFourDevice.processJoin]
        split_ifs <;> simp
      | accociate =>
        rw [FifteenDotFourDevice.processBranch, FifteenDotFourDevice.processAccociate]
        split_ifs <;> simp
      | idle =>
        rw [FifteenDotFourDevice.processBranch, FifteenDotFourDevice.processIdle]
        by_cases hidle : d.Pending .idle
        · rw [if_pos hidle]
          simp
        · rw [if_neg hidle]
          simp
      | poll =>
        rw [FifteenDotFourDevice.processBranch, FifteenDotFourDevice.processPoll]
        split_ifs <;> simp

/-- The callbacks make no data requests. -/
theorem request_of_incoming {node node' : Node} {device : AssociationDevice}
    {status : ApiMacAssocStatus} {msg : MacCbackMsg} {calls : List MacCall}
    (hnode : node.incoming device status msg = some (node', calls))
    (dataReq : ApiMacMcpsDataReq) : .mcpsDataReq dataReq ∉ calls := by
  cases node with
  | collector c =>
    rw [Node.incoming] at hnode
    cases hcallback : collectorCallback device status msg with
    | none =>
      simp only [hcallback] at hnode
      obtain ⟨-, rfl⟩ := Prod.mk.inj (Option.some.inj hnode)
      simp
    | some step =>
      simp only [hcallback, Option.map_eq_some_iff, Prod.mk.injEq] at hnode
      obtain ⟨⟨c', out⟩, hstep, -, rfl⟩ := hnode
      cases step with
      | assocInd | disassocInd | startCnf =>
        obtain ⟨-, rfl⟩ := Prod.mk.inj (Option.some.inj hstep)
        simp
      | dataInd pDataInd =>
        simp only [collectorMachine, Option.map_eq_some_iff, Prod.mk.injEq] at hstep
        obtain ⟨_, -, -, rfl⟩ := hstep
        simp
      | start => exact absurd hcallback (collectorCallback_ne device status msg).1
      | process => exact absurd hcallback (collectorCallback_ne device status msg).2
  | device d =>
    rw [Node.incoming] at hnode
    cases hcallback : deviceCallback msg with
    | none =>
      simp only [hcallback] at hnode
      obtain ⟨-, rfl⟩ := Prod.mk.inj (Option.some.inj hnode)
      simp
    | some step =>
      simp only [hcallback, Option.map_eq_some_iff, Prod.mk.injEq] at hnode
      obtain ⟨⟨d', out⟩, hstep, -, rfl⟩ := hnode
      cases stepsTo_of_step hstep with
      | process => exact absurd hcallback (deviceCallback_ne_process msg)
      | beaconNotifyInd pData =>
        rw [FifteenDotFourDevice.beaconNotifyIndCb_eq]
        split_ifs <;> simp
      | _ => simp

/-- The first part of an iteration makes one data request at most, and only if a message is due. -/
theorem AppTask.dataReq_of_send {app app' : AppTask} {ticks later : UInt32}
    {status : ApiMacStatus} {calls : List AppTaskCall}
    (hs : app.send ticks later status = some (app', calls)) {dataReq : ApiMacMcpsDataReq}
    (hmem : .mac (.mcpsDataReq dataReq) ∈ calls) :
    SendDue (getCurrentTime ticks) app.start ∧
      ∀ dataReq', .mac (.mcpsDataReq dataReq') ∈ calls → dataReq' = dataReq := by
  by_cases hdue : SendDue (getCurrentTime ticks) app.start
  · refine ⟨hdue, ?_⟩
    rw [AppTask.send_of_due hdue, Option.map_eq_some_iff] at hs
    obtain ⟨⟨tr, node'⟩, -, heq⟩ := hs
    obtain ⟨-, rfl⟩ := Prod.mk.inj heq
    have honly : ∀ dataReq'', AppTaskCall.mac (.mcpsDataReq dataReq'') ∈
          (.mac (.mcpsDataReq (node'.endTransmission app.node.sendShortAddr status).1) ::
            if !(node'.endTransmission app.node.sendShortAddr status).2 then
              [.println (chars "Failed to send msg")] else [] : List AppTaskCall) →
        dataReq'' = (node'.endTransmission app.node.sendShortAddr status).1 := by
      intro dataReq'' hin
      rcases List.mem_cons.mp hin with heq | hin
      · exact MacCall.mcpsDataReq.inj (AppTaskCall.mac.inj heq)
      · split_ifs at hin <;> simp at hin
    intro dataReq' hmem'
    exact (honly dataReq' hmem').trans (honly dataReq hmem).symm
  · rw [AppTask.send_of_not_due hdue] at hs
    obtain ⟨-, rfl⟩ := Prod.mk.inj (Option.some.inj hs)
    simp at hmem

/-- The second part of an iteration makes no calls into the MAC. -/
theorem AppTask.mac_of_receive {app app' : AppTask} {buf : List UInt8} {calls : List AppTaskCall}
    (hs : app.receive buf = some (app', calls)) (call : MacCall) : .mac call ∉ calls := by
  simp only [AppTask.receive] at hs
  split_ifs at hs
  · simp only [Option.bind_eq_bind, Option.bind_eq_some_iff, Option.pure_def, Option.some.injEq,
      Prod.mk.injEq] at hs
    obtain ⟨r, -, text, -, -, rfl⟩ := hs
    simp
  · obtain ⟨-, rfl⟩ := Prod.mk.inj (Option.some.inj hs)
    simp

/-- A branch of `process` leaves the buffers as they are. -/
theorem base_of_runBranch {node node' : Node} {nb : NodeBranch} {calls : List MacCall}
    (hrun : node.runBranch nb = some (node', calls)) : node'.base = node.base := by
  cases node with
  | collector c =>
    obtain ⟨⟨revents, rfl⟩, -⟩ := runBranch_collector hrun
    rfl
  | device d =>
    cases nb with
    | start | «open» => cases hrun
    | device e =>
      obtain ⟨rfl, -⟩ := Prod.mk.inj (Option.some.inj hrun)
      rw [d.processBranch_frame e]
      rfl

/-- A callback concerns the receive buffer at most. -/
theorem indicated_of_incoming {node node' : Node} {device : AssociationDevice}
    {status : ApiMacAssocStatus} {msg : MacCbackMsg} {calls : List MacCall}
    (hnode : node.incoming device status msg = some (node', calls)) : node.Indicated node' := by
  cases node with
  | collector c =>
    rw [Node.incoming] at hnode
    cases hcallback : collectorCallback device status msg with
    | none =>
      simp only [hcallback] at hnode
      obtain ⟨rfl, -⟩ := Prod.mk.inj (Option.some.inj hnode)
      exact Or.inl rfl
    | some step =>
      simp only [hcallback, Option.map_eq_some_iff, Prod.mk.injEq] at hnode
      obtain ⟨⟨c', out⟩, hstep, rfl, -⟩ := hnode
      exact Node.indicated_collector hstep
  | device d =>
    rw [Node.incoming] at hnode
    cases hcallback : deviceCallback msg with
    | none =>
      simp only [hcallback] at hnode
      obtain ⟨rfl, -⟩ := Prod.mk.inj (Option.some.inj hnode)
      exact Or.inl rfl
    | some step =>
      simp only [hcallback, Option.map_eq_some_iff, Prod.mk.injEq] at hnode
      obtain ⟨⟨d', out⟩, hstep, rfl, -⟩ := hnode
      exact Node.indicated_device hstep

/-- The data requests of a step carry both texts of the application to the address of the other
node. -/
def SendsGreeting (s : Firmware) (out : List FirmwareCall) : Prop :=
  ∀ dataReq, .app (.mac (.mcpsDataReq dataReq)) ∈ out →
    dataReq.msdu.bytes = s.app.node.msg ++ s.app.node.addr ∧
      dataReq.dstAddr = ⟨s.app.node.sendShortAddr, .short⟩

/-- **One step** of the firmware keeps the transmit buffer linear, and what it sends carries both
texts. -/
theorem sendsGreeting_of_step {s s' : Firmware} {step : FirmwareStep} {out : List FirmwareCall}
    {tr₀ : List NodeStep} (h : TransmitInv tr₀ s.app.node)
    (hs : firmwareMachine.step s step = some (s', out)) :
    (∃ tr, TransmitInv tr s'.app.node) ∧ SendsGreeting s out := by
  cases firmwareStepsTo_of_step hs with
  | @send ticks later status app calls hpc hsend =>
    by_cases hdue : SendDue (getCurrentTime ticks) s.app.start
    · obtain ⟨app₁, calls₁, dataReq, hsend₁, hmem, hbytes, hdst, hinv⟩ :=
        AppTask.carries_of_due h later status hdue
      obtain ⟨rfl, rfl⟩ := Prod.mk.inj (Option.some.inj (hsend₁.symm.trans hsend))
      refine ⟨hinv, fun dataReq' hin => ?_⟩
      obtain ⟨call, hcall, heq⟩ := List.mem_map.mp hin
      obtain rfl := FirmwareCall.app.inj heq
      obtain rfl := (AppTask.dataReq_of_send hsend hmem).2 dataReq' hcall
      exact ⟨hbytes, hdst⟩
    · rw [AppTask.send_of_not_due hdue] at hsend
      obtain ⟨rfl, rfl⟩ := Prod.mk.inj (Option.some.inj hsend)
      exact ⟨⟨tr₀, h⟩, fun dataReq hin => by simp at hin⟩
  | receive hpc hreceive =>
    refine ⟨⟨tr₀, ?_⟩, fun dataReq hin => ?_⟩
    · rcases AppTask.receive_cases hreceive with rfl | ⟨_, _, _, node', hread, rfl⟩
      · exact h
      · exact h.of_txBuffer_eq (Node.txBuffer_readBuf hread)
    · obtain ⟨call, hcall, heq⟩ := List.mem_map.mp hin
      obtain rfl := FirmwareCall.app.inj heq
      exact absurd hcall (AppTask.mac_of_receive hreceive _)
  | branch hpc hrun =>
    refine ⟨⟨tr₀, h.of_txBuffer_eq (by rw [base_of_runBranch hrun])⟩, fun dataReq hin => ?_⟩
    obtain ⟨call, hcall, heq⟩ := List.mem_map.mp hin
    obtain rfl := AppTaskCall.mac.inj (FirmwareCall.app.inj heq)
    exact absurd hcall (request_of_runBranch hrun dataReq)
  | handle hpc hblock hmsg hnode hattached hfree =>
    refine ⟨⟨tr₀, h.of_txBuffer_eq (indicated_of_incoming hnode).txBuffer_eq⟩,
      fun dataReq hin => ?_⟩
    rcases List.mem_cons.mp hin with heq | hin
    · cases heq
    · obtain ⟨call, hcall, heq⟩ := List.mem_map.mp hin
      obtain rfl := AppTaskCall.mac.inj (FirmwareCall.app.inj heq)
      exact absurd hcall (request_of_incoming hnode dataReq)
  | timeout htimer hnode hstep hpost =>
    have hind := Node.indicated_device hstep
    rw [← hnode] at hind
    exact ⟨⟨tr₀, h.of_txBuffer_eq hind.txBuffer_eq⟩, fun dataReq hin => by cases hin⟩
  | _ => exact ⟨⟨tr₀, h⟩, fun dataReq hin => by cases hin⟩

/-- **Every data request carries both texts** to the address of the other node, in every run of the
firmware with a new node: nothing that the timers, the callbacks and the MAC do gets into the
transmit buffer. -/
theorem dataReq_of_exec {node : Node} {txBase : ℕ} {txBytes : List UInt8}
    {rxBlock : Option (ℕ × List UInt8)} {raw : FifteenDotFour} {dev : Bool}
    (htx : txBytes.length = mtu)
    (hbase : node.base = .construct rxBlock (some (txBase, txBytes)) raw dev) {start : UInt32}
    {steps : List FirmwareStep} {tr : List FirmwareTransition} {s : Firmware}
    (hx : firmwareMachine.exec (.boot ⟨node, start⟩) steps = some (tr, s)) :
    ∀ u ∈ tr, ∀ dataReq, .app (.mac (.mcpsDataReq dataReq)) ∈ u.out →
      dataReq.msdu.bytes = u.pre.app.node.msg ++ u.pre.app.node.addr ∧
        dataReq.dstAddr = ⟨u.pre.app.node.sendShortAddr, .short⟩ := by
  have hrun : (∃ tr, TransmitInv tr s.app.node) ∧ ∀ u ∈ tr, SendsGreeting u.pre u.out := by
    refine firmwareMachine.exec_induction
      (P := fun _ tr s => (∃ tr, TransmitInv tr s.app.node) ∧ ∀ u ∈ tr, SendsGreeting u.pre u.out)
      ⟨⟨[], TransmitInv.init htx hbase⟩, by simp⟩ ?_ hx
    rintro _ tr s step s' out _ ⟨⟨tr₀, hinv⟩, hsends⟩ hs
    obtain ⟨hinv', hsends'⟩ := sendsGreeting_of_step hinv hs
    refine ⟨hinv', fun u hu => ?_⟩
    rcases List.mem_append.mp hu with hold | hnew
    · exact hsends u hold
    · obtain rfl := List.mem_singleton.mp hnew
      exact hsends'
  exact hrun.2

/-- A collector that sends a message after six seconds. -/
theorem dataReq_of_exec_due :
    ∃ tr s, firmwareMachine.exec sampleCollectorBoot [.send 600000 600000 .success] =
        some (tr, s) ∧
      ∀ u ∈ tr, ∀ dataReq, .app (.mac (.mcpsDataReq dataReq)) ∈ u.out →
        dataReq.msdu.bytes = u.pre.app.node.msg ++ u.pre.app.node.addr ∧
          dataReq.dstAddr = ⟨u.pre.app.node.sendShortAddr, .short⟩ := by
  have hpc : (firmwareMachine.exec sampleCollectorBoot [.send 600000 600000 .success]).map
      (fun r => r.2.pc) = some .receive := by decide +kernel
  obtain ⟨tr, s, hx, -⟩ := exists_exec_of_pc hpc
  exact ⟨tr, s, hx, dataReq_of_exec (List.length_replicate ..) rfl hx⟩

/-! ## How often a collector sends -/

/-- The step is a round of the loop. -/
def FirmwareStep.isSend : FirmwareStep → Bool
  | .send _ _ _ => true
  | _ => false

/-- The events that a collector can have set: outside of `process` the two that it has, and in
`process` those whose branches are still to be run. -/
def Drained (pc : Pc) (c : FifteenDotFourCollector) : Prop :=
  match pc with
  | .process todo => ∀ i < 16, FlagBits.IsSet c.revents i →
      (i = startBit ∧ .start ∈ todo) ∨ (i = openBit ∧ .open ∈ todo)
  | _ => ∀ i < 16, FlagBits.IsSet c.revents i → i = startBit ∨ i = openBit

/-- Outside of `process` it does not matter where. -/
theorem Drained.of_not_process {pc pc' : Pc} {c : FifteenDotFourCollector} (h : Drained pc c)
    (hpc' : ∀ todo, pc' ≠ .process todo) : Drained pc' c := by
  have hweak : ∀ i < 16, FlagBits.IsSet c.revents i → i = startBit ∨ i = openBit := by
    intro i hi hset
    cases pc with
    | process todo => exact (h i hi hset).imp And.left And.left
    | _ => exact h i hi hset
  cases pc' with
  | process todo => exact absurd rfl (hpc' todo)
  | _ => exact hweak

/-- At the start of `process` all branches are still to be run. -/
theorem Drained.process {c : FifteenDotFourCollector} (h : Drained .receive c) :
    Drained (.process (Node.collector c).branches) c :=
  fun i hi hset => (h i hi hset).imp (fun heq => ⟨heq, by simp [Node.branches]⟩)
    fun heq => ⟨heq, by simp [Node.branches]⟩

/-- The branch for `START_EVENT` clears it. -/
theorem isSet_processStart {c : FifteenDotFourCollector} {i : ℕ} (hi : i < 16)
    (hset : FlagBits.IsSet c.processStart.1.revents i) :
    FlagBits.IsSet c.revents i ∧ i ≠ startBit := by
  unfold FifteenDotFourCollector.processStart startEvent at hset
  split_ifs at hset with hstart
  · exact (FlagBits.isSet_and_not_bit hi startBit_lt).mp hset
  · refine ⟨hset, ?_⟩
    rintro rfl
    exact hstart hset

/-- The branch for `OPEN_EVENT` clears it. -/
theorem isSet_processOpen {c : FifteenDotFourCollector} {i : ℕ} (hi : i < 16)
    (hset : FlagBits.IsSet c.processOpen.1.revents i) :
    FlagBits.IsSet c.revents i ∧ i ≠ openBit := by
  unfold FifteenDotFourCollector.processOpen openEvent at hset
  split_ifs at hset with hopen
  · exact (FlagBits.isSet_and_not_bit hi openBit_lt).mp hset
  · refine ⟨hset, ?_⟩
    rintro rfl
    exact hopen hset

/-- A branch of `process` clears its event. -/
theorem Drained.branch {c c' : FifteenDotFourCollector} {nb : NodeBranch}
    {todo : List NodeBranch} {calls : List MacCall} (h : Drained (.process (nb :: todo)) c)
    (hrun : (Node.collector c).runBranch nb = some (.collector c', calls)) :
    Drained (.process todo) c' := by
  intro i hi hset
  cases nb with
  | start =>
    obtain rfl := Node.collector.inj (Prod.mk.inj (Option.some.inj hrun)).1
    obtain ⟨hset, hne⟩ := isSet_processStart hi hset
    rcases h i hi hset with ⟨heq, -⟩ | ⟨heq, hmem⟩
    · exact absurd heq hne
    · exact Or.inr ⟨heq, by simpa using hmem⟩
  | «open» =>
    obtain rfl := Node.collector.inj (Prod.mk.inj (Option.some.inj hrun)).1
    obtain ⟨hset, hne⟩ := isSet_processOpen hi hset
    rcases h i hi hset with ⟨heq, hmem⟩ | ⟨heq, -⟩
    · exact Or.inl ⟨heq, by simpa using hmem⟩
    · exact absurd heq hne
  | device e => cases hrun

/-- After all branches no event is set. -/
theorem Drained.revents_eq {c : FifteenDotFourCollector} (h : Drained (.process []) c) :
    c.revents = 0 := by
  refine FlagBits.eq_zero_of_not_isSet fun i hi hset => ?_
  rcases h i hi hset with ⟨-, hmem⟩ | ⟨-, hmem⟩ <;> cases hmem

/-- A callback of a collector sets no other event than `OPEN_EVENT`. -/
theorem revents_of_incoming {c : FifteenDotFourCollector} {device : AssociationDevice}
    {status : ApiMacAssocStatus} {msg : MacCbackMsg} {node : Node} {calls : List MacCall}
    (hnode : (Node.collector c).incoming device status msg = some (node, calls)) :
    ∃ c', node = .collector c' ∧
      ∀ i < 16, FlagBits.IsSet c'.revents i → FlagBits.IsSet c.revents i ∨ i = openBit := by
  rw [Node.incoming] at hnode
  cases hcallback : collectorCallback device status msg with
  | none =>
    simp only [hcallback] at hnode
    obtain ⟨rfl, -⟩ := Prod.mk.inj (Option.some.inj hnode)
    exact ⟨c, rfl, fun i _ hset => Or.inl hset⟩
  | some step =>
    simp only [hcallback, Option.map_eq_some_iff, Prod.mk.injEq] at hnode
    obtain ⟨⟨c', out⟩, hstep, rfl, -⟩ := hnode
    refine ⟨c', rfl, fun i hi hset => ?_⟩
    cases step with
    | assocInd pData device status =>
      obtain ⟨rfl, -⟩ := Prod.mk.inj (Option.some.inj hstep)
      obtain ⟨table, num, hframe⟩ := c.assocIndCb_frame device status pData
      rw [hframe] at hset
      exact Or.inl hset
    | disassocInd pData =>
      obtain ⟨rfl, -⟩ := Prod.mk.inj (Option.some.inj hstep)
      exact Or.inl hset
    | startCnf status =>
      obtain ⟨rfl, -⟩ := Prod.mk.inj (Option.some.inj hstep)
      exact (FlagBits.isSet_or_bit hi openBit_lt).mp hset
    | dataInd pDataInd =>
      simp only [collectorMachine, Option.map_eq_some_iff, Prod.mk.injEq] at hstep
      obtain ⟨c'', hdata, rfl, -⟩ := hstep
      rw [FifteenDotFourCollector.dataIndCB, Option.map_eq_some_iff] at hdata
      obtain ⟨b', -, rfl⟩ := hdata
      exact Or.inl hset
    | start => exact absurd hcallback (collectorCallback_ne device status msg).1
    | process => exact absurd hcallback (collectorCallback_ne device status msg).2

/-- The application is between a wake-up and the end of `ApiMac_processIncoming`. -/
def Pc.isAwake : Pc → Bool
  | .receiving | .testing _ | .signalling _ _ | .handling _ => true
  | _ => false

/-- What a collector has counted: a round for each wake-up, and one more at the start. -/
structure Firmware.Counted (s : Firmware) (steps : List FirmwareStep) : Prop where
  collector : ∃ c, s.app.node = .collector c ∧ Drained s.pc c
  joining : s.joining = false
  timeouts : steps.countP FirmwareStep.isTimeout = 0
  rounds : steps.countP FirmwareStep.isSend + (if s.pc = .send then 1 else 0) +
    (if s.pc.isAwake then 1 else 0) ≤ steps.countP FirmwareStep.isPend + 1

/-- The count after one more step. -/
theorem Firmware.Counted.snoc {s s' : Firmware} {steps : List FirmwareStep} {step : FirmwareStep}
    (h : s.Counted steps) (hcollector : ∃ c, s'.app.node = .collector c ∧ Drained s'.pc c)
    (hjoining : s'.joining = false) (htimeout : step.isTimeout = false)
    (hcount : (if step.isSend then 1 else 0) + (if s'.pc = .send then 1 else 0) +
        (if s'.pc.isAwake then 1 else 0) ≤
      (if s.pc = .send then 1 else 0) + (if s.pc.isAwake then 1 else 0) +
        if step.isPend then 1 else 0) : s'.Counted (steps ++ [step]) where
  collector := hcollector
  joining := hjoining
  timeouts := by rw [List.countP_append, h.timeouts, List.countP_singleton, htimeout]; rfl
  rounds := by
    have hrounds := h.rounds
    rw [List.countP_append, List.countP_append, List.countP_singleton, List.countP_singleton]
    omega

/-- **One step** of the firmware of a collector keeps the count. -/
theorem Firmware.Counted.step {s s' : Firmware} {steps : List FirmwareStep} {step : FirmwareStep}
    {out : List FirmwareCall} (h : s.Counted steps)
    (hs : firmwareMachine.step s step = some (s', out)) : s'.Counted (steps ++ [step]) := by
  obtain ⟨c, hc, hdrained⟩ := h.collector
  have hjoining := h.joining
  have hnext : s.next = .send := by
    rw [Firmware.next, hjoining]
    rfl
  cases firmwareStepsTo_of_step hs with
  | joined ticks hpc hconn | joining ticks hpc hconn =>
    rw [hc] at hconn
    cases hconn
  | send hpc hsend =>
    obtain ⟨⟨b, hnode⟩, -⟩ := AppTask.send_frame hsend
    rw [hc] at hnode
    refine h.snoc ⟨_, hnode, ?_⟩ hjoining rfl ?_
    · exact Drained.of_not_process (c := { c with toFifteenDotFour := b }) hdrained (by simp)
    · simp [hpc, FirmwareStep.isSend, Pc.isAwake]
  | receive hpc hreceive =>
    obtain ⟨⟨b, hnode⟩, -⟩ := AppTask.receive_frame hreceive
    rw [hc] at hnode
    rw [hpc] at hdrained
    refine h.snoc ⟨_, hnode, ?_⟩ hjoining rfl (by simp [hpc, FirmwareStep.isSend, Pc.isAwake])
    rw [hnode]
    exact Drained.process hdrained
  | @branch nb todo node calls hpc hrun =>
    rw [hc] at hrun
    rw [hpc] at hdrained
    obtain ⟨⟨revents, rfl⟩, -⟩ := runBranch_collector hrun
    exact h.snoc ⟨_, rfl, hdrained.branch hrun⟩ hjoining rfl
      (by simp [hpc, FirmwareStep.isSend, Pc.isAwake])
  | wait hpc hrevents =>
    exact h.snoc ⟨c, hc, hdrained.of_not_process (by simp)⟩ hjoining rfl 
      (by simp [hpc, FirmwareStep.isSend, FirmwareStep.isPend, Pc.isAwake])
  | again hpc hrevents =>
    -- a collector has no event set after its branches
    rw [hpc] at hdrained
    rw [hc] at hrevents
    exact absurd hdrained.revents_eq hrevents
  | pend hpc hpend =>
    exact h.snoc ⟨c, hc, hdrained.of_not_process (by simp)⟩ hjoining rfl 
      (by simp [hpc, FirmwareStep.isSend, FirmwareStep.isPend, Pc.isAwake])
  | take hpc htake =>
    exact h.snoc ⟨c, hc, hdrained.of_not_process (by simp)⟩ hjoining rfl
      (by simp [hpc, FirmwareStep.isSend, Pc.isAwake])
  | look hpc hlook =>
    exact h.snoc ⟨c, hc, hdrained.of_not_process (by simp)⟩ hjoining rfl
      (by simp [hpc, FirmwareStep.isSend, Pc.isAwake])
  | signal hpc hsignal =>
    exact h.snoc ⟨c, hc, hdrained.of_not_process (by simp)⟩ hjoining rfl
      (by simp [hpc, FirmwareStep.isSend, Pc.isAwake])
  | nothing device status hpc =>
    refine h.snoc ⟨c, hc, hdrained.of_not_process (by simp [hnext])⟩ hjoining rfl ?_
    simp [hpc, hnext, FirmwareStep.isSend, Pc.isAwake]
  | handle hpc hblock hmsg hnode hattached hfree =>
    rw [hc] at hnode
    obtain ⟨c', rfl, hrevents⟩ := revents_of_incoming hnode
    refine h.snoc ⟨c', rfl, ?_⟩ hjoining rfl ?_
    · rw [hpc] at hdrained
      have hsend : Drained .send c' := fun i hi hset =>
        (hrevents i hi hset).elim (hdrained i hi) Or.inr
      exact hsend.of_not_process (by simp [hnext])
    · simp [hpc, hnext, FirmwareStep.isSend, Pc.isAwake]
  | timeout htimer hnode hstep hpost => cases hnode.symm.trans hc
  | cback hcan hcback => exact h.snoc ⟨c, hc, hdrained⟩ hjoining rfl (by simp [FirmwareStep.isSend])
  | macAlloc hfree hdest =>
    exact h.snoc ⟨c, hc, hdrained⟩ hjoining rfl (by simp [FirmwareStep.isSend])
  | macWrite hmem hdest =>
    exact h.snoc ⟨c, hc, hdrained⟩ hjoining rfl (by simp [FirmwareStep.isSend])
  | macFree hmem => exact h.snoc ⟨c, hc, hdrained⟩ hjoining rfl (by simp [FirmwareStep.isSend])

/-- **A collector goes round its loop once for each message of the MAC**, and once more at the
start: it has no timers, and it waits at the end of every round. So it sends no more messages than
that, however much time passes.

**Proof sketch.** The count of the rounds goes up with the wake-ups, and the application wakes up no
more often than a message has been sent or a timer has expired. -/
theorem sends_le {c₀ : FifteenDotFourCollector}
    (h0 : ∀ i < 16, FlagBits.IsSet c₀.revents i → i = startBit ∨ i = openBit) {start : UInt32}
    {steps : List FirmwareStep} {tr : List FirmwareTransition} {s : Firmware}
    (hx : firmwareMachine.exec (.boot ⟨.collector c₀, start⟩) steps = some (tr, s)) :
    steps.countP FirmwareStep.isSend ≤ (steps.filterMap FirmwareStep.posted).length + 1 := by
  have hboot : (Firmware.boot ⟨.collector c₀, start⟩).Counted [] :=
    ⟨⟨c₀, rfl, h0⟩, rfl, rfl, le_rfl⟩
  have hcounted : s.Counted steps := by
    refine firmwareMachine.exec_induction (P := fun steps _ s => s.Counted steps) hboot ?_ hx
    intro steps tr s step s' out _ ih hs
    exact ih.step hs
  have hpends := countP_isPend_le hx
  have hrounds := hcounted.rounds
  have htimeouts := hcounted.timeouts
  omega

/-- A collector that starts a second round after a message. -/
theorem sends_le_two :
    (sampleIteration ++ FirmwareStep.cback 0 ⟨0, .pollInd⟩ (some 5) none :: sampleRound ++
      [FirmwareStep.send 0 0 .success]).countP FirmwareStep.isSend ≤
      [(⟨0, .pollInd⟩ : MacCbackMsg)].length + 1 := by
  have hpc : (firmwareMachine.exec sampleCollectorBoot (sampleIteration ++
      .cback 0 ⟨0, .pollInd⟩ (some 5) none :: sampleRound ++ [.send 0 0 .success])).map
      (fun r => r.2.pc) = some .receive := by decide +kernel
  obtain ⟨tr, s, hx, -⟩ := exists_exec_of_pc hpc
  exact sends_le (by decide) hx

end SensorCollector
