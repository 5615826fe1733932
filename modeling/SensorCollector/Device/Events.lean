import SensorCollector.Device.Defs

set_option relaxedAutoImplicit false
set_option autoImplicit false

/-!
# The events of the device

What the functions of the device do with the set of events, the timers and the other members. Each
function gets one lemma for each part of the device it changes, so that results about runs need not
look at the bits of `revents` or at the branches of `process` again.

## Main results

* `SensorCollector.FifteenDotFourDevice.pending_setEvent` and its siblings — the three ways to
  write `revents`, as operations on a set of events.
* `SensorCollector.FifteenDotFourDevice.pending_process` — the events after a call of `process`.
* `SensorCollector.FifteenDotFourDevice.calls_process` — the calls into the MAC it makes.
* `SensorCollector.FifteenDotFourDevice.beaconNotifyIndCb_eq` — what a beacon does.
* `SensorCollector.stepsTo_of_step` — what a step can do, by cases.
-/

namespace SensorCollector

/-- The events have different bits. -/
theorem DeviceEvent.index_inj {e f : DeviceEvent} : e.index = f.index ↔ e = f := by
  cases e <;> cases f <;> decide

/-- The bits of the events are in the word. -/
theorem DeviceEvent.index_lt (e : DeviceEvent) : e.index < 16 := by
  cases e <;> decide

/-- A timer that is set for some time is active. -/
theorem ClockStruct.active_setClock (clock : ClockStruct) {time : UInt32} (h : time > 0) :
    (clock.setClock time).active = true := by
  rw [ClockStruct.setClock, if_pos h]
  rfl

namespace FifteenDotFourDevice

variable (d : FifteenDotFourDevice) (e f : DeviceEvent)

/-! ## The set of events -/

/-- `revents |= mask` adds an event. -/
@[simp] theorem pending_setEvent : (d.setEvent f).Pending e ↔ d.Pending e ∨ e = f := by
  unfold Pending setEvent DeviceEvent.mask
  rw [FlagBits.isSet_or_bit e.index_lt f.index_lt, DeviceEvent.index_inj]

/-- `revents &= ~mask` removes an event. -/
@[simp] theorem pending_clearEvent : (d.clearEvent f).Pending e ↔ d.Pending e ∧ e ≠ f := by
  unfold Pending clearEvent DeviceEvent.mask
  rw [FlagBits.isSet_and_not_bit e.index_lt f.index_lt, ne_eq, ne_eq, DeviceEvent.index_inj]

/-- `revents = mask` leaves one event. -/
@[simp] theorem pending_assignEvent : (d.assignEvent f).Pending e ↔ e = f := by
  unfold Pending assignEvent DeviceEvent.mask
  rw [FlagBits.isSet_bit e.index_lt f.index_lt, DeviceEvent.index_inj]

/-- The events are read from `revents` only. -/
theorem pending_congr {d d' : FifteenDotFourDevice} (h : d'.revents = d.revents)
    (e : DeviceEvent) : d'.Pending e ↔ d.Pending e := by
  rw [Pending, Pending, h]

/-- An event that is not set is not cleared. -/
theorem clearEvent_of_not_pending (h : ¬ d.Pending e) : d.clearEvent e = d := by
  have hrevents : d.revents &&& ~~~ e.mask = d.revents :=
    FlagBits.and_not_bit_of_not_isSet e.index_lt h
  rw [clearEvent, hrevents]

@[simp] theorem connected_setEvent : (d.setEvent e).connected = d.connected := rfl

/-! ## The branches of `process` -/

/-- The branch for `JOIN_EVENT` clears its event. -/
theorem pending_processJoin : d.processJoin.1.Pending e ↔ d.Pending e ∧ e ≠ .join := by
  unfold processJoin
  split_ifs with h
  · exact d.pending_clearEvent e .join
  · exact ⟨fun he => ⟨he, fun heq => h (heq ▸ he)⟩, And.left⟩

/-- The branch for `ACCOCIATE_EVENT` clears its event. -/
theorem pending_processAccociate :
    d.processAccociate.1.Pending e ↔ d.Pending e ∧ e ≠ .accociate := by
  unfold processAccociate
  split_ifs with h
  · exact d.pending_clearEvent e .accociate
  · exact ⟨fun he => ⟨he, fun heq => h (heq ▸ he)⟩, And.left⟩

/-- The branch for `IDLE_EVENT` clears its event. -/
theorem pending_processIdle : d.processIdle.1.Pending e ↔ d.Pending e ∧ e ≠ .idle := by
  unfold processIdle
  by_cases h : d.Pending .idle
  · rw [if_pos h, ← pending_clearEvent]
    refine pending_congr ?_ e
    dsimp only
    split_ifs <;> rfl
  · rw [if_neg h]
    exact ⟨fun he => ⟨he, fun heq => h (heq ▸ he)⟩, And.left⟩

/-- The branch for `POLL_EVENT` turns its event into `IDLE_EVENT`. -/
theorem pending_processPoll :
    d.processPoll.1.Pending e ↔ (d.Pending e ∧ e ≠ .poll) ∨ (d.Pending .poll ∧ e = .idle) := by
  unfold processPoll
  split_ifs with h
  · rw [pending_setEvent, pending_clearEvent]
    simp [h]
  · have hne : d.Pending e → e ≠ .poll := fun he heq => h (heq ▸ he)
    simp only [h, false_and, or_false]
    exact ⟨fun he => ⟨he, hne he⟩, And.left⟩

/-- **The events after a call of `process`**: all have been dealt with, but `POLL_EVENT` leaves
`IDLE_EVENT` for the next call. -/
@[simp] theorem pending_process : d.process.1.Pending e ↔ d.Pending .poll ∧ e = .idle := by
  simp only [process, pending_processPoll, pending_processIdle, pending_processAccociate,
    pending_processJoin]
  cases e <;> simp

/-- The first two branches and the last one change `revents` only. -/
theorem processJoin_frame : d.processJoin.1 = { d with revents := d.processJoin.1.revents } := by
  unfold processJoin
  split_ifs <;> rfl

/-- See `processJoin_frame`. -/
theorem processAccociate_frame :
    d.processAccociate.1 = { d with revents := d.processAccociate.1.revents } := by
  unfold processAccociate
  split_ifs <;> rfl

/-- See `processJoin_frame`. -/
theorem processPoll_frame : d.processPoll.1 = { d with revents := d.processPoll.1.revents } := by
  unfold processPoll
  split_ifs <;> rfl

/-- The branch for `IDLE_EVENT` changes `revents` and sets one of the timers. -/
theorem processIdle_frame :
    d.processIdle.1 = { d with
      revents := d.processIdle.1.revents
      pollClkStruct :=
        if d.Pending .idle ∧ d.connected = true then d.pollClkStruct.setClock pollingInterval
        else d.pollClkStruct
      scanClkStruct :=
        if d.Pending .idle ∧ d.connected = false then d.scanClkStruct.setClock scanInterval
        else d.scanClkStruct } := by
  unfold processIdle
  by_cases h : d.Pending .idle
  · cases hc : d.connected <;> simp [h, hc, clearEvent, setPollClock, setScanClock]
  · simp [h]

/-- **What `process` changes**: `revents`, and one of the timers if `IDLE_EVENT` is set. -/
theorem process_frame :
    d.process.1 = { d with
      revents := d.process.1.revents
      pollClkStruct :=
        if d.Pending .idle ∧ d.connected = true then d.pollClkStruct.setClock pollingInterval
        else d.pollClkStruct
      scanClkStruct :=
        if d.Pending .idle ∧ d.connected = false then d.scanClkStruct.setClock scanInterval
        else d.scanClkStruct } := by
  have hidle : d.processJoin.1.processAccociate.1.Pending .idle ↔ d.Pending .idle := by
    rw [pending_processAccociate, pending_processJoin]
    simp
  have hconn : d.processJoin.1.processAccociate.1.connected = d.connected := by
    rw [processAccociate_frame, processJoin_frame]
  simp only [process]
  rw [processPoll_frame, processIdle_frame]
  simp only [hidle, hconn]
  rw [processAccociate_frame, processJoin_frame]

/-- `process` leaves `connected` as it is. -/
@[simp] theorem connected_process : d.process.1.connected = d.connected := by
  rw [process_frame]

/-- The scan timer after a call of `process`. -/
theorem scanClkStruct_process : d.process.1.scanClkStruct =
    if d.Pending .idle ∧ d.connected = false then d.scanClkStruct.setClock scanInterval
    else d.scanClkStruct := by
  rw [process_frame]

/-- **The calls of `process`**: one group for each event that is set, from the same members. -/
theorem calls_process : d.process.2 =
    (if d.Pending .join then [.mlmeSetReqBool .rxOnWhenIdle true, .mlmeScanReq scanReq]
      else []) ++
    (if d.Pending .accociate then [.mlmeAssociateReq d.assocReq] else []) ++
    (if d.Pending .idle then [.mlmeSetReqBool .rxOnWhenIdle false] else []) ++
    (if d.Pending .poll then [.mlmePollReq d.pollReq] else []) ++
    (if d.process.1.revents = 0 then [.processIncoming] else []) := by
  have hacc : d.processJoin.1.Pending .accociate ↔ d.Pending .accociate := by
    rw [pending_processJoin]
    simp
  have hidle : d.processJoin.1.processAccociate.1.Pending .idle ↔ d.Pending .idle := by
    rw [pending_processAccociate, pending_processJoin]
    simp
  have hpoll : d.processJoin.1.processAccociate.1.processIdle.1.Pending .poll ↔
      d.Pending .poll := by
    rw [pending_processIdle, pending_processAccociate, pending_processJoin]
    simp
  have hassocReq : d.processJoin.1.assocReq = d.assocReq := by
    rw [processJoin_frame]
    rfl
  have hpollReq : d.processJoin.1.processAccociate.1.processIdle.1.pollReq = d.pollReq := by
    rw [processIdle_frame, processAccociate_frame, processJoin_frame]
    rfl
  have h₁ : d.processJoin.2 = if d.Pending .join then
      [.mlmeSetReqBool .rxOnWhenIdle true, .mlmeScanReq scanReq] else [] := by
    unfold processJoin
    split_ifs <;> rfl
  have h₂ : d.processJoin.1.processAccociate.2 = if d.Pending .accociate then
      [.mlmeAssociateReq d.assocReq] else [] := by
    simp only [processAccociate, hacc, hassocReq]
    split_ifs <;> rfl
  have h₃ : d.processJoin.1.processAccociate.1.processIdle.2 = if d.Pending .idle then
      [.mlmeSetReqBool .rxOnWhenIdle false] else [] := by
    rw [processIdle]
    simp only [hidle]
    split_ifs <;> rfl
  have h₄ : d.processJoin.1.processAccociate.1.processIdle.1.processPoll.2 =
      if d.Pending .poll then [.mlmePollReq d.pollReq] else [] := by
    rw [processPoll]
    simp only [hpoll, hpollReq]
    split_ifs <;> rfl
  rw [← h₁, ← h₂, ← h₃, ← h₄]
  rfl

/-! ## The callbacks -/

/-- The beacons of networks that a device can join: normal ones that permit association and whose
beacon order passes the check. -/
def Eligible (pData : ApiMacMlmeBeaconNotifyInd) : Prop :=
  pData.beaconType = .normal ∧ apimacSfsAssociationPermit pData.panDesc.superframeSpec ≠ 0 ∧
    checkBeaconOrder pData.panDesc.superframeSpec = true

instance (pData : ApiMacMlmeBeaconNotifyInd) : Decidable (Eligible pData) :=
  inferInstanceAs (Decidable (_ ∧ _ ∧ _))

/-- The beacon makes the device take its network: it is eligible, and the device is in that PAN or
in none. -/
def Adopts (pData : ApiMacMlmeBeaconNotifyInd) : Prop :=
  Eligible pData ∧ (d.panID = 0xFFFF ∨ d.panID = pData.panDesc.coordPanId)

instance (pData : ApiMacMlmeBeaconNotifyInd) : Decidable (d.Adopts pData) :=
  inferInstanceAs (Decidable (_ ∧ _))

/-- **What a beacon does**: the device takes the PAN, the channel and the coordinator of a beacon
that it adopts, and ignores all others. -/
theorem beaconNotifyIndCb_eq (pData : ApiMacMlmeBeaconNotifyInd) :
    d.beaconNotifyIndCb pData =
      if d.Adopts pData then
        ({ d with
            panID := pData.panDesc.coordPanId
            panIdMatch := true
            coordShortAddr := pData.panDesc.coordAddress.shortAddr
            channel := pData.panDesc.logicalChannel }, [.mlmeSetReqBool .autoRequest true])
      else (d, []) := by
  by_cases helig : Eligible pData
  · have ⟨htype, hpermit, horder⟩ := helig
    rw [beaconNotifyIndCb, if_pos htype, if_pos hpermit, if_pos horder]
    by_cases hpan : d.panID = 0xFFFF
    · rw [if_pos (show d.Adopts pData from ⟨helig, Or.inl hpan⟩),
        if_pos (show d.getPanID = 0xFFFF from hpan)]
      exact if_pos rfl
    · rw [if_neg (show ¬ d.getPanID = 0xFFFF from hpan)]
      by_cases hcoord : d.panID = pData.panDesc.coordPanId
      · rw [if_pos (show d.Adopts pData from ⟨helig, Or.inr hcoord⟩), ← hcoord]
        exact if_pos rfl
      · rw [if_neg (show ¬ d.Adopts pData from fun h => h.2.elim hpan hcoord)]
        exact if_neg (Ne.symm hcoord)
  · rw [if_neg (show ¬ d.Adopts pData from fun h => helig h.1), beaconNotifyIndCb]
    by_cases htype : pData.beaconType = .normal
    · by_cases hpermit : apimacSfsAssociationPermit pData.panDesc.superframeSpec ≠ 0
      · rw [if_pos htype, if_pos hpermit, if_neg fun horder => helig ⟨htype, hpermit, horder⟩]
      · rw [if_pos htype, if_neg hpermit]
    · rw [if_neg htype]

/-- A beacon concerns the members that name the network and the coordinator. -/
theorem beaconNotifyIndCb_frame (pData : ApiMacMlmeBeaconNotifyInd) :
    (d.beaconNotifyIndCb pData).1 = { d with
      channel := (d.beaconNotifyIndCb pData).1.channel
      panID := (d.beaconNotifyIndCb pData).1.panID
      panIdMatch := (d.beaconNotifyIndCb pData).1.panIdMatch
      coordShortAddr := (d.beaconNotifyIndCb pData).1.coordShortAddr } := by
  rw [beaconNotifyIndCb_eq]
  split_ifs <;> rfl

/-- **The events after a scan confirm**: a success with a match adds `ACCOCIATE_EVENT`, a failure
adds `IDLE_EVENT`. -/
theorem pending_scanCnfCB (status : ApiMacStatus) :
    (d.scanCnfCB status).Pending e ↔ d.Pending e ∨
      (status = .success ∧ d.getPanIdMatch = true ∧ e = .accociate) ∨
      (status ≠ .success ∧ e = .idle) := by
  have hidle : (d.setEvent .idle).Pending e ↔ d.Pending e ∨ e = .idle :=
    d.pending_setEvent e .idle
  by_cases hok : status = .success
  · subst hok
    cases hmatch : d.getPanIdMatch <;> simp [scanCnfCB, hmatch]
  · simp only [scanCnfCB, hok, if_false, false_and, ne_eq, not_false_eq_true, true_and, false_or]
    split_ifs
    · exact hidle
    · exact hidle

/-- A scan confirm concerns the events and the scan timer. -/
theorem scanCnfCB_frame (status : ApiMacStatus) :
    d.scanCnfCB status = { d with
      revents := (d.scanCnfCB status).revents
      scanClkStruct := (d.scanCnfCB status).scanClkStruct } := by
  unfold scanCnfCB
  dsimp only
  split_ifs <;> rfl

/-- A poll confirm concerns the events. -/
theorem pollCnfCb_frame (status : ApiMacStatus) :
    d.pollCnfCb status = { d with revents := (d.pollCnfCb status).revents } := by
  unfold pollCnfCb
  split_ifs <;> rfl

/-- A data confirm concerns the events. -/
theorem dataCnfCB_frame (status : ApiMacStatus) :
    d.dataCnfCB status = { d with revents := (d.dataCnfCB status).revents } := by
  unfold dataCnfCB
  split_ifs <;> rfl

/-- A data indication concerns the receive buffer. -/
theorem dataIndCB_frame {d d' : FifteenDotFourDevice} {pDataInd : Option ApiMacMcpsDataInd}
    (h : d.dataIndCB pDataInd = some d') :
    d' = { d with toFifteenDotFour := d'.toFifteenDotFour } := by
  rw [dataIndCB, Option.map_eq_some_iff] at h
  obtain ⟨node, -, rfl⟩ := h
  rfl

end FifteenDotFourDevice

/-! ## What a step can do -/

open FifteenDotFourDevice in
/-- What a step of the device can do: the state it arrives in and the calls it makes, by cases. -/
inductive StepsTo (d : FifteenDotFourDevice) :
    DeviceStep → FifteenDotFourDevice → List MacCall → Prop
  | connect : StepsTo d .connect d.connect []
  | process : StepsTo d .process d.process.1 d.process.2
  | scanTimeout (hactive : d.scanClkStruct.active = true) :
    StepsTo d .scanTimeout
      (processScanTimeoutCallback { d with scanClkStruct := d.scanClkStruct.timerStop }) []
  | pollTimeout (hactive : d.pollClkStruct.active = true) :
    StepsTo d .pollTimeout
      (processPollTimeoutCallback { d with pollClkStruct := d.pollClkStruct.timerStop }) []
  | scanCnf (status : ApiMacStatus) : StepsTo d (.scanCnf status) (d.scanCnfCB status) []
  | associateCnf (status : ApiMacAssocStatus) :
    StepsTo d (.associateCnf status) (d.associateCnfCB status) []
  | pollCnf (status : ApiMacStatus) : StepsTo d (.pollCnf status) (d.pollCnfCb status) []
  | dataCnf (status : ApiMacStatus) : StepsTo d (.dataCnf status) (d.dataCnfCB status) []
  | beaconNotifyInd (pData : ApiMacMlmeBeaconNotifyInd) :
    StepsTo d (.beaconNotifyInd pData) (d.beaconNotifyIndCb pData).1 (d.beaconNotifyIndCb pData).2
  | dataInd {pDataInd : Option ApiMacMcpsDataInd} {d' : FifteenDotFourDevice}
    (hind : d.dataIndCB pDataInd = some d') : StepsTo d (.dataInd pDataInd) d' []

/-- **Every step is one of these cases.** -/
theorem stepsTo_of_step {d d' : FifteenDotFourDevice} {step : DeviceStep} {calls : List MacCall}
    (hs : deviceMachine.step d step = some (d', calls)) : StepsTo d step d' calls := by
  cases step with
  | scanTimeout =>
    simp only [deviceMachine, Option.ite_none_right_eq_some, Option.some.injEq,
      Prod.mk.injEq] at hs
    obtain ⟨hactive, rfl, rfl⟩ := hs
    exact .scanTimeout hactive
  | pollTimeout =>
    simp only [deviceMachine, Option.ite_none_right_eq_some, Option.some.injEq,
      Prod.mk.injEq] at hs
    obtain ⟨hactive, rfl, rfl⟩ := hs
    exact .pollTimeout hactive
  | dataInd pDataInd =>
    simp only [deviceMachine, Option.map_eq_some_iff, Prod.mk.injEq] at hs
    obtain ⟨d', hind, rfl, rfl⟩ := hs
    exact .dataInd hind
  | _ =>
    obtain ⟨rfl, rfl⟩ := Prod.mk.inj (Option.some.inj hs)
    constructor

/-- A step other than a data indication leaves the buffers as they are. -/
theorem base_of_stepsTo {d d' : FifteenDotFourDevice} {step : DeviceStep} {calls : List MacCall}
    (h : StepsTo d step d' calls) : d'.toFifteenDotFour = d.toFifteenDotFour ∨
      ∃ pDataInd, d.dataIndCB pDataInd = some d' := by
  cases h with
  | connect => exact Or.inl rfl
  | process =>
    left
    rw [FifteenDotFourDevice.process_frame]
  | scanTimeout _ => exact Or.inl rfl
  | pollTimeout _ => exact Or.inl rfl
  | scanCnf status =>
    left
    rw [FifteenDotFourDevice.scanCnfCB_frame]
  | associateCnf status => exact Or.inl rfl
  | pollCnf status =>
    left
    rw [FifteenDotFourDevice.pollCnfCb_frame]
  | dataCnf status =>
    left
    rw [FifteenDotFourDevice.dataCnfCB_frame]
  | beaconNotifyInd pData =>
    left
    rw [FifteenDotFourDevice.beaconNotifyIndCb_frame]
  | dataInd hind => exact Or.inr ⟨_, hind⟩

/-- **What a step other than a beacon changes**: the receive buffer, the events, the timers and
`connected`. -/
theorem frame_of_stepsTo {d d' : FifteenDotFourDevice} {step : DeviceStep} {calls : List MacCall}
    (h : StepsTo d step d' calls) (hne : ∀ pData, step ≠ .beaconNotifyInd pData) :
    d' = { d with
      toFifteenDotFour := d'.toFifteenDotFour
      revents := d'.revents
      connected := d'.connected
      pollClkStruct := d'.pollClkStruct
      scanClkStruct := d'.scanClkStruct } := by
  cases h with
  | connect => rfl
  | process => rw [FifteenDotFourDevice.process_frame]
  | scanTimeout _ => rfl
  | pollTimeout _ => rfl
  | scanCnf status => rw [FifteenDotFourDevice.scanCnfCB_frame]
  | associateCnf status => rfl
  | pollCnf status => rw [FifteenDotFourDevice.pollCnfCb_frame]
  | dataCnf status => rw [FifteenDotFourDevice.dataCnfCB_frame]
  | beaconNotifyInd pData => exact absurd rfl (hne pData)
  | dataInd hind => rw [FifteenDotFourDevice.dataIndCB_frame hind]

/-- A step leaves the PAN of a device that is in one. -/
theorem panID_of_stepsTo {d d' : FifteenDotFourDevice} {step : DeviceStep} {calls : List MacCall}
    (h : StepsTo d step d' calls) (hpan : d.panID ≠ 0xFFFF) : d'.panID = d.panID := by
  by_cases hbeacon : ∃ pData, step = .beaconNotifyInd pData
  · obtain ⟨pData, rfl⟩ := hbeacon
    cases h with
    | beaconNotifyInd =>
      rw [FifteenDotFourDevice.beaconNotifyIndCb_eq]
      split_ifs with hadopts
      · exact (hadopts.2.resolve_left hpan).symm
      · rfl
  · rw [frame_of_stepsTo h fun pData heq => hbeacon ⟨pData, heq⟩]

end SensorCollector
