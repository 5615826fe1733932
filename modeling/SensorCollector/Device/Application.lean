import SensorCollector.Device.Association

set_option relaxedAutoImplicit false
set_option autoImplicit false

/-!
# The device and its application

The application that owns a device calls its setters, and a timer can expire between two branches of
`process`. So the runs below have the setters and the single branches as steps of their own, next to
the steps of the device.

The members that name the network are written by the setters and by the beacons that the device
adopts, and by nothing else; the requests of the device are filled from them.

## Main definitions

* `SensorCollector.FifteenDotFourDevice.processBranch` — one branch of `process`.
* `SensorCollector.AppStep`, `SensorCollector.appMachine` — the steps of a device and its
  application.
* `SensorCollector.adopted` — the beacon that a step makes the device adopt.
* `SensorCollector.panWritten` and its siblings — what a step writes to the members.
* `SensorCollector.RunsBranch` — a step runs the branch of an event that is set.
* `SensorCollector.MacCall.branch` — the branch that a call into the MAC comes from.
* `SensorCollector.SchedulesAssociation` — a step is a scan confirm that schedules an association.

## Main results

* `SensorCollector.exec_branches` — a call of `process` is a run of its branches.
* `SensorCollector.members_of_step` — a step leaves in the members what it writes to them.
* `SensorCollector.requests_of_step` — the requests that a step makes.
* `SensorCollector.branch_call_iff` — the branches that a step runs, by its calls.
* `SensorCollector.schedulesAssociation_iff` — the confirm of a successful scan after a match
  schedules an association.
* `SensorCollector.pending_accociate_of_step` — nothing else does.
-/

namespace SensorCollector

open EventMachine

/-- The branch of `process` for an event. -/
def FifteenDotFourDevice.processBranch (d : FifteenDotFourDevice) :
    DeviceEvent → FifteenDotFourDevice × List MacCall
  | .join => d.processJoin
  | .accociate => d.processAccociate
  | .idle => d.processIdle
  | .poll => d.processPoll

/-- The steps of a device and of the application that owns it. -/
inductive AppStep
  | setChannel (c : UInt8)
  | setPanID (id : UInt16)
  | setPanIdMatch (m : Bool)
  | setCoordShortAddr (addr : UInt16)
  /-- One branch of `process`. -/
  | branch (e : DeviceEvent)
  /-- A step of the device. -/
  | device (step : DeviceStep)
  deriving DecidableEq

/-- The device with its application as a machine. -/
def appMachine : EventMachine FifteenDotFourDevice AppStep (List MacCall) where
  step d
    | .setChannel c => some (d.setChannel c, [])
    | .setPanID id => some (d.setPanID id, [])
    | .setPanIdMatch m => some (d.setPanIdMatch m, [])
    | .setCoordShortAddr addr => some (d.setCoordShortAddr addr, [])
    | .branch e => some (d.processBranch e)
    | .device step => deviceMachine.step d step

/-- A step of a run of the device with its application. -/
abbrev AppTransition := Transition FifteenDotFourDevice AppStep (List MacCall)

/-- The step is a call of one of the setters. -/
def AppStep.isSetter : AppStep → Bool
  | .branch _ => false
  | .device _ => false
  | _ => true

/-! ## The branches of `process` -/

/-- A branch of `process` changes `revents` and the timers only. -/
theorem FifteenDotFourDevice.processBranch_frame (d : FifteenDotFourDevice) (e : DeviceEvent) :
    (d.processBranch e).1 = { d with
      revents := (d.processBranch e).1.revents
      pollClkStruct := (d.processBranch e).1.pollClkStruct
      scanClkStruct := (d.processBranch e).1.scanClkStruct } := by
  cases e with
  | join => exact d.processJoin_frame.trans (by rw [processBranch, processJoin_frame])
  | accociate =>
    exact d.processAccociate_frame.trans (by rw [processBranch, processAccociate_frame])
  | idle => exact d.processIdle_frame.trans (by rw [processBranch, processIdle_frame])
  | poll => exact d.processPoll_frame.trans (by rw [processBranch, processPoll_frame])

/-- A step that runs one branch of `process`. -/
theorem of_step_branch {d d' : FifteenDotFourDevice} {e : DeviceEvent} {calls : List MacCall}
    (hs : appMachine.step d (.branch e) = some (d', calls)) :
    d' = (d.processBranch e).1 ∧ calls = (d.processBranch e).2 :=
  Prod.mk.inj (Option.some.inj hs).symm

/-- **A call of `process` is a run of its four branches**: it arrives in the same state, with the
calls of the branches and then perhaps a wait. -/
theorem exec_branches (d : FifteenDotFourDevice) :
    ∃ tr : List AppTransition,
      appMachine.exec d [.branch .join, .branch .accociate, .branch .idle, .branch .poll] =
        some (tr, d.process.1) ∧
      d.process.2 = tr.flatMap Transition.out ++
        if d.process.1.revents = 0 then [.processIncoming] else [] := by
  refine ⟨_, rfl, ?_⟩
  simp only [List.flatMap_cons, List.flatMap_nil, List.append_nil, ← List.append_assoc]
  rfl

/-! ## The members that name the network -/

/-- The beacon that a step makes the device adopt. -/
def adopted (d : FifteenDotFourDevice) : AppStep → Option ApiMacMlmeBeaconNotifyInd
  | .device (.beaconNotifyInd pData) => if d.Adopts pData then some pData else none
  | _ => none

/-- What a step writes to `panID`. -/
def panWritten (d : FifteenDotFourDevice) : AppStep → Option UInt16
  | .setPanID id => some id
  | step => (adopted d step).map fun pData => pData.panDesc.coordPanId

/-- What a step writes to `channel`. -/
def channelWritten (d : FifteenDotFourDevice) : AppStep → Option UInt8
  | .setChannel c => some c
  | step => (adopted d step).map fun pData => pData.panDesc.logicalChannel

/-- What a step writes to `coordShortAddr`. -/
def addrWritten (d : FifteenDotFourDevice) : AppStep → Option UInt16
  | .setCoordShortAddr addr => some addr
  | step => (adopted d step).map fun pData => pData.panDesc.coordAddress.shortAddr

/-- What a step writes to `panIdMatch`. -/
def matchWritten (d : FifteenDotFourDevice) : AppStep → Option Bool
  | .setPanIdMatch m => some m
  | step => (adopted d step).map fun _ => true

/-- A beacon is adopted if it arrives and the device is in its PAN or in none. -/
theorem adopted_eq_some_iff {d : FifteenDotFourDevice} {step : AppStep}
    {pData : ApiMacMlmeBeaconNotifyInd} :
    adopted d step = some pData ↔ step = .device (.beaconNotifyInd pData) ∧ d.Adopts pData := by
  constructor
  · intro h
    unfold adopted at h
    split at h
    · split_ifs at h with hadopts
      obtain rfl := Option.some.inj h
      exact ⟨rfl, hadopts⟩
    · cases h
  · rintro ⟨rfl, hadopts⟩
    exact if_pos hadopts

/-- A step that is not a call of a setter writes what the adopted beacon names. -/
theorem written_of_not_setter (d : FifteenDotFourDevice) {step : AppStep}
    (h : step.isSetter = false) :
    panWritten d step = (adopted d step).map (fun pData => pData.panDesc.coordPanId) ∧
      channelWritten d step = (adopted d step).map (fun pData => pData.panDesc.logicalChannel) ∧
      addrWritten d step =
        (adopted d step).map (fun pData => pData.panDesc.coordAddress.shortAddr) := by
  cases step with
  | branch e => exact ⟨rfl, rfl, rfl⟩
  | device step => exact ⟨rfl, rfl, rfl⟩
  | _ => cases h

/-- **What a step leaves in the members**: what it writes to them, or what was there before. -/
theorem members_of_step {d d' : FifteenDotFourDevice} {step : AppStep} {calls : List MacCall}
    (hs : appMachine.step d step = some (d', calls)) :
    d'.panID = (panWritten d step).getD d.panID ∧
      d'.channel = (channelWritten d step).getD d.channel ∧
      d'.coordShortAddr = (addrWritten d step).getD d.coordShortAddr ∧
      d'.panIdMatch = (matchWritten d step).getD d.panIdMatch := by
  cases step with
  | branch e =>
    rw [(of_step_branch hs).1, FifteenDotFourDevice.processBranch_frame]
    exact ⟨rfl, rfl, rfl, rfl⟩
  | device step =>
    have hto := stepsTo_of_step hs
    by_cases hbeacon : ∃ pData, step = .beaconNotifyInd pData
    · obtain ⟨pData, rfl⟩ := hbeacon
      cases hto with
      | beaconNotifyInd =>
        rw [FifteenDotFourDevice.beaconNotifyIndCb_eq]
        by_cases hadopts : d.Adopts pData
        · simp [panWritten, channelWritten, addrWritten, matchWritten, adopted, hadopts]
        · simp [panWritten, channelWritten, addrWritten, matchWritten, adopted, hadopts]
    · have hne : ∀ pData, step ≠ .beaconNotifyInd pData := fun pData h => hbeacon ⟨pData, h⟩
      have hadopted : adopted d (.device step) = none := by
        cases h : adopted d (.device step) with
        | none => rfl
        | some pData =>
          exact absurd (AppStep.device.inj (adopted_eq_some_iff.mp h).1) (hne pData)
      rw [frame_of_stepsTo hto hne]
      simp [panWritten, channelWritten, addrWritten, matchWritten, hadopted]
  | _ =>
    obtain ⟨rfl, rfl⟩ := Prod.mk.inj (Option.some.inj hs)
    exact ⟨rfl, rfl, rfl, rfl⟩

/-! ## Connecting -/

/-- The step delivers an associate confirm. -/
def AppStep.isAssociateCnf : AppStep → Bool
  | .device (.associateCnf _) => true
  | _ => false

/-- A step connects the device if it delivers an associate confirm, and does not disconnect it. -/
theorem connected_of_appStep {d d' : FifteenDotFourDevice} {step : AppStep} {calls : List MacCall}
    (hs : appMachine.step d step = some (d', calls)) :
    d'.connected = true ↔ d.connected = true ∨ step.isAssociateCnf = true := by
  cases step with
  | branch e =>
    rw [(of_step_branch hs).1, FifteenDotFourDevice.processBranch_frame]
    simp [AppStep.isAssociateCnf]
  | device step =>
    rw [connected_step hs]
    cases step <;> simp [AppStep.isAssociateCnf, DeviceStep.assocStatus]
  | _ =>
    obtain ⟨rfl, rfl⟩ := Prod.mk.inj (Option.some.inj hs)
    exact (or_iff_left (by simp [AppStep.isAssociateCnf])).symm

/-! ## The requests of a step -/

/-- The step runs the branch of an event, and the event is set. -/
def RunsBranch (e : DeviceEvent) (d : FifteenDotFourDevice) (step : AppStep) : Prop :=
  (step = .branch e ∨ step = .device .process) ∧ d.Pending e

/-- A step of the device other than `process` makes no request. -/
theorem not_request_of_stepsTo {d d' : FifteenDotFourDevice} {step : DeviceStep}
    {calls : List MacCall} (h : StepsTo d step d' calls) (hne : step ≠ .process) :
    ∀ call ∈ calls, ∃ b, call = .mlmeSetReqBool .autoRequest b := by
  cases h with
  | process => exact absurd rfl hne
  | beaconNotifyInd pData =>
    rw [FifteenDotFourDevice.beaconNotifyIndCb_eq]
    split_ifs
    · exact fun call hcall => ⟨true, List.mem_singleton.mp hcall⟩
    · simp
  | _ => simp

/-- **The requests of a step**: each comes from the branch of its event, and is filled from the
members. -/
theorem requests_of_step {d d' : FifteenDotFourDevice} {step : AppStep} {calls : List MacCall}
    (hs : appMachine.step d step = some (d', calls)) :
    (∀ req, .mlmeScanReq req ∈ calls ↔
        RunsBranch .join d step ∧ req = FifteenDotFourDevice.scanReq) ∧
      (∀ req, .mlmeAssociateReq req ∈ calls ↔
        RunsBranch .accociate d step ∧ req = d.assocReq) ∧
      ∀ req, .mlmePollReq req ∈ calls ↔ RunsBranch .poll d step ∧ req = d.pollReq := by
  cases step with
  | branch e =>
    rw [(of_step_branch hs).2]
    cases e with
    | join =>
      simp only [FifteenDotFourDevice.processBranch, FifteenDotFourDevice.processJoin, RunsBranch]
      split_ifs with h <;> simp [h]
    | accociate =>
      simp only [FifteenDotFourDevice.processBranch, FifteenDotFourDevice.processAccociate,
        RunsBranch]
      split_ifs with h <;> simp [h]
    | idle =>
      simp only [FifteenDotFourDevice.processBranch, FifteenDotFourDevice.processIdle, RunsBranch]
      split_ifs with h <;> simp
    | poll =>
      simp only [FifteenDotFourDevice.processBranch, FifteenDotFourDevice.processPoll, RunsBranch]
      split_ifs with h <;> simp [h]
  | device step =>
    by_cases hproc : step = .process
    · subst hproc
      have hcalls : calls = d.process.2 := (Prod.mk.inj (Option.some.inj hs)).2.symm
      rw [hcalls, FifteenDotFourDevice.calls_process]
      refine ⟨fun req => ?_, fun req => ?_, fun req => ?_⟩
      · simp [RunsBranch]
      · simp [RunsBranch]
      · simp [RunsBranch]
    · have hnone := not_request_of_stepsTo (stepsTo_of_step hs) hproc
      refine ⟨fun req => ?_, fun req => ?_, fun req => ?_⟩
      all_goals
        refine iff_of_false (fun hcall => ?_) (by simp [RunsBranch, hproc])
        obtain ⟨b, hb⟩ := hnone _ hcall
        cases hb
  | _ =>
    obtain ⟨-, rfl⟩ := Prod.mk.inj (Option.some.inj hs)
    simp [RunsBranch]

/-- The branch of `process` that a call into the MAC comes from: each branch makes a call of its
own. -/
def MacCall.branch : MacCall → Option DeviceEvent
  | .mlmeScanReq _ => some .join
  | .mlmeAssociateReq _ => some .accociate
  | .mlmeSetReqBool .rxOnWhenIdle false => some .idle
  | .mlmePollReq _ => some .poll
  | _ => none

/-- The calls of one branch of `process`: its own, if its event is set. -/
theorem branch_call_processBranch (d : FifteenDotFourDevice) (e f : DeviceEvent) :
    (∃ call ∈ (d.processBranch f).2, call.branch = some e) ↔ f = e ∧ d.Pending e := by
  cases f with
  | join =>
    simp only [FifteenDotFourDevice.processBranch, FifteenDotFourDevice.processJoin]
    split_ifs with h <;> cases e <;> simp [MacCall.branch, h]
  | accociate =>
    simp only [FifteenDotFourDevice.processBranch, FifteenDotFourDevice.processAccociate]
    split_ifs with h <;> cases e <;> simp [MacCall.branch, h]
  | idle =>
    simp only [FifteenDotFourDevice.processBranch, FifteenDotFourDevice.processIdle]
    split_ifs with h <;> cases e <;> simp [MacCall.branch, h]
  | poll =>
    simp only [FifteenDotFourDevice.processBranch, FifteenDotFourDevice.processPoll]
    split_ifs with h <;> cases e <;> simp [MacCall.branch, h]

/-- **The branches that a step runs, by its calls**: the step makes the call of a branch exactly if
it runs that branch. -/
theorem branch_call_iff {d d' : FifteenDotFourDevice} {step : AppStep} {calls : List MacCall}
    (hs : appMachine.step d step = some (d', calls)) (e : DeviceEvent) :
    (∃ call ∈ calls, call.branch = some e) ↔ RunsBranch e d step := by
  cases step with
  | branch f =>
    rw [(of_step_branch hs).2, branch_call_processBranch]
    simp [RunsBranch]
  | device step =>
    by_cases hproc : step = .process
    · subst hproc
      have hcalls : calls = d.process.2 := (Prod.mk.inj (Option.some.inj hs)).2.symm
      rw [hcalls, FifteenDotFourDevice.calls_process]
      cases e <;> simp [RunsBranch, and_assoc, or_and_right, exists_or, MacCall.branch]
    · refine iff_of_false ?_ (by simp [RunsBranch, hproc])
      rintro ⟨call, hcall, hbranch⟩
      obtain ⟨b, rfl⟩ := not_request_of_stepsTo (stepsTo_of_step hs) hproc call hcall
      cases hbranch
  | _ =>
    obtain ⟨-, rfl⟩ := Prod.mk.inj (Option.some.inj hs)
    simp [RunsBranch]

/-! ## Scheduling an association -/

/-- The step is a scan confirm that sets `ACCOCIATE_EVENT`: the callback leaves the event set where
it was not set before. -/
def SchedulesAssociation (d : FifteenDotFourDevice) (step : AppStep) : Prop :=
  ∃ status, step = .device (.scanCnf status) ∧
    ((d.clearEvent .accociate).scanCnfCB status).Pending .accociate

/-- If the event is not set, a scan confirm sets it exactly if it is set after the step. -/
theorem schedulesAssociation_iff_pending {d d' : FifteenDotFourDevice} {status : ApiMacStatus}
    {calls : List MacCall} (hs : appMachine.step d (.device (.scanCnf status)) = some (d', calls))
    (hpend : ¬ d.Pending .accociate) :
    SchedulesAssociation d (.device (.scanCnf status)) ↔ d'.Pending .accociate := by
  obtain ⟨rfl, -⟩ := Prod.mk.inj (Option.some.inj hs)
  have hclear : d.clearEvent .accociate = d := d.clearEvent_of_not_pending _ hpend
  simp [SchedulesAssociation, hclear]

/-- **When an association is scheduled**: when a scan is confirmed as a success and there was a
match. -/
theorem schedulesAssociation_iff {d : FifteenDotFourDevice} {step : AppStep} :
    SchedulesAssociation d step ↔
      step = .device (.scanCnf .success) ∧ d.getPanIdMatch = true := by
  have hpend (status : ApiMacStatus) :
      ((d.clearEvent .accociate).scanCnfCB status).Pending .accociate ↔
        status = .success ∧ d.getPanIdMatch = true := by
    rw [FifteenDotFourDevice.pending_scanCnfCB, FifteenDotFourDevice.pending_clearEvent]
    have hmatch : (d.clearEvent .accociate).getPanIdMatch = d.getPanIdMatch := rfl
    simp [hmatch]
  constructor
  · rintro ⟨status, rfl, hset⟩
    obtain ⟨rfl, hmatch⟩ := (hpend status).mp hset
    exact ⟨rfl, hmatch⟩
  · rintro ⟨rfl, hmatch⟩
    exact ⟨.success, rfl, (hpend .success).mpr ⟨rfl, hmatch⟩⟩

/-- A branch of `process` does not schedule an association. -/
theorem FifteenDotFourDevice.pending_accociate_of_processBranch {d : FifteenDotFourDevice}
    {e : DeviceEvent} (h : (d.processBranch e).1.Pending .accociate) : d.Pending .accociate := by
  cases e with
  | join => exact ((d.pending_processJoin _).mp h).1
  | accociate => exact ((d.pending_processAccociate _).mp h).1
  | idle => exact ((d.pending_processIdle _).mp h).1
  | poll =>
    rcases (d.pending_processPoll _).mp h with ⟨hpend, -⟩ | ⟨-, heq⟩
    · exact hpend
    · cases heq

/-- **Only a scan confirm schedules an association**: a step that arrives in a state with
`ACCOCIATE_EVENT` set sets it by such a confirm, or it was set before. -/
theorem pending_accociate_of_step {d d' : FifteenDotFourDevice} {step : AppStep}
    {calls : List MacCall} (hs : appMachine.step d step = some (d', calls))
    (h : d'.Pending .accociate) : d.Pending .accociate ∨ SchedulesAssociation d step := by
  cases step with
  | branch e =>
    rw [(of_step_branch hs).1] at h
    exact Or.inl (FifteenDotFourDevice.pending_accociate_of_processBranch h)
  | device step =>
    -- setting another event does not schedule it
    have hother : ∀ e, DeviceEvent.accociate ≠ e → (d.setEvent e).Pending .accociate →
        d.Pending .accociate := by
      intro e hne hpend
      exact ((d.pending_setEvent .accociate e).mp hpend).resolve_right hne
    cases stepsTo_of_step hs with
    | connect => exact Or.inl (hother .join (by decide) h)
    | process => simp at h
    | scanTimeout _ => exact Or.inl (hother .join (by decide) h)
    | pollTimeout _ => exact Or.inl (hother .poll (by decide) h)
    | scanCnf status =>
      by_cases hpend : d.Pending .accociate
      · exact Or.inl hpend
      · exact Or.inr ((schedulesAssociation_iff_pending hs hpend).mpr h)
    | associateCnf status => exact Or.inl (hother .idle (by decide) h)
    | pollCnf status =>
      unfold FifteenDotFourDevice.pollCnfCb at h
      split_ifs at h
      · simp at h
      · exact Or.inl h
    | dataCnf status =>
      unfold FifteenDotFourDevice.dataCnfCB at h
      split_ifs at h
      · simp at h
      · simp at h
      · exact Or.inl h
    | beaconNotifyInd pData =>
      rw [FifteenDotFourDevice.beaconNotifyIndCb_frame] at h
      exact Or.inl h
    | dataInd hind =>
      rw [FifteenDotFourDevice.dataIndCB_frame hind] at h
      exact Or.inl h
  | _ =>
    obtain ⟨rfl, -⟩ := Prod.mk.inj (Option.some.inj hs)
    exact Or.inl h

end SensorCollector
