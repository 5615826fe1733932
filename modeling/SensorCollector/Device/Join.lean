import SensorCollector.Device.Events

set_option relaxedAutoImplicit false
set_option autoImplicit false

/-!
# Joining never gets stuck

A device that is not connected goes on only if something is left to happen: an event is set, the
scan timer is active, or the MAC still owes a confirm for a scan or an associate request. Otherwise
`process` waits for a message that does not come.

The confirm of a successful scan sets an event only if a matching beacon was received. Without one
it is the step that can leave nothing to happen.

## Main definitions

* `SensorCollector.JoinState`, `SensorCollector.joinMachine` — the device together with the requests
  the MAC has not confirmed yet.
* `SensorCollector.NotStuck` — something is left to happen, or the device is connected.
* `SensorCollector.LeavesWork` — the step is not the confirm of a successful scan without a match
  that ends all that was left to happen.

## Main results

* `SensorCollector.notStuck_step` — a step from a state that is not stuck arrives in one if and only
  if it leaves work.
* `SensorCollector.notStuck_iff_leavesWork` — so it is for the runs of a device that begins and
  connects.
-/

namespace SensorCollector

open EventMachine

/-! ## The device and its open requests -/

/-- The call is a scan request. -/
def MacCall.isScanReq : MacCall → Bool
  | .mlmeScanReq _ => true
  | _ => false

/-- The call is an associate request. -/
def MacCall.isAssociateReq : MacCall → Bool
  | .mlmeAssociateReq _ => true
  | _ => false

/-- A device, and how many requests it waits for. -/
structure JoinState where
  device : FifteenDotFourDevice
  /-- The scan requests that have not been confirmed. -/
  scans : ℕ
  /-- The associate requests that have not been confirmed. -/
  assocs : ℕ
  deriving DecidableEq

/-- The number of scan requests that a step confirms. -/
def confirmedScans : DeviceStep → ℕ
  | .scanCnf _ => 1
  | _ => 0

/-- The number of associate requests that a step confirms. -/
def confirmedAssocs : DeviceStep → ℕ
  | .associateCnf _ => 1
  | _ => 0

/-- The device with a MAC that accepts every scan and associate request and delivers one confirm
for it: a confirm arrives only if a request is open, and closes it. -/
def joinMachine : EventMachine JoinState DeviceStep (List MacCall) where
  step s e :=
    if confirmedScans e ≤ s.scans ∧ confirmedAssocs e ≤ s.assocs then
      (deviceMachine.step s.device e).map fun r =>
        (⟨r.1, s.scans - confirmedScans e + r.2.countP MacCall.isScanReq,
          s.assocs - confirmedAssocs e + r.2.countP MacCall.isAssociateReq⟩, r.2)
    else none

/-- The device at the start: after `begin` and `connect`, with no request open. -/
def joinStart (d : FifteenDotFourDevice) (autoJoin : Bool) : JoinState :=
  ⟨(d.begin autoJoin).connect, 0, 0⟩

/-- If the device is not connected, an event is set, or the scan timer is active, or a scan or an
associate request is open. -/
def NotStuck (s : JoinState) : Prop :=
  s.device.connected = false →
    (∃ e, s.device.Pending e) ∨ s.device.scanClkStruct.active = true ∨ 0 < s.scans ∨ 0 < s.assocs

/-- If the step confirms a successful scan to a device that is not connected and has met no
matching beacon, something else is left to happen: an event is set, or the scan timer is active, or
another request is open. -/
def LeavesWork (s : JoinState) (e : DeviceStep) : Prop :=
  e = .scanCnf .success → s.device.panIdMatch = false → s.device.connected = false →
    (∃ e, s.device.Pending e) ∨ s.device.scanClkStruct.active = true ∨ 1 < s.scans ∨ 0 < s.assocs

/-- A step is one of the device, on open requests. -/
theorem joinMachine_step_iff {s s' : JoinState} {e : DeviceStep} {calls : List MacCall} :
    joinMachine.step s e = some (s', calls) ↔
      confirmedScans e ≤ s.scans ∧ confirmedAssocs e ≤ s.assocs ∧
        ∃ d', deviceMachine.step s.device e = some (d', calls) ∧
          s' = ⟨d', s.scans - confirmedScans e + calls.countP MacCall.isScanReq,
            s.assocs - confirmedAssocs e + calls.countP MacCall.isAssociateReq⟩ := by
  simp only [joinMachine]
  split_ifs with h
  · simp only [Option.map_eq_some_iff, Prod.mk.injEq, Prod.exists, h.1, h.2, true_and]
    constructor
    · rintro ⟨d', calls', hs, rfl, rfl⟩
      exact ⟨d', hs, rfl⟩
    · rintro ⟨d', hs, rfl⟩
      exact ⟨d', calls, hs, rfl, rfl⟩
  · simp only [false_iff]
    exact fun hs => h ⟨hs.1, hs.2.1⟩

/-- `process` makes one scan request if `JOIN_EVENT` is set, and no other. -/
theorem countP_isScanReq_process (d : FifteenDotFourDevice) :
    d.process.2.countP MacCall.isScanReq = if d.Pending .join then 1 else 0 := by
  rw [FifteenDotFourDevice.calls_process]
  simp [apply_ite (List.countP _), List.countP_cons, MacCall.isScanReq]

/-- `process` makes one associate request if `ACCOCIATE_EVENT` is set, and no other. -/
theorem countP_isAssociateReq_process (d : FifteenDotFourDevice) :
    d.process.2.countP MacCall.isAssociateReq = if d.Pending .accociate then 1 else 0 := by
  rw [FifteenDotFourDevice.calls_process]
  simp [apply_ite (List.countP _), List.countP_cons, MacCall.isAssociateReq]

/-! ## One step -/

/-- A state with an event set is not stuck. -/
theorem notStuck_of_pending {s : JoinState} {e : DeviceEvent} (h : s.device.Pending e) :
    NotStuck s :=
  fun _ => Or.inl ⟨e, h⟩

/-- A state is not stuck if it keeps what another state has left to happen. -/
theorem NotStuck.mono {s s' : JoinState} (h : NotStuck s)
    (hconn : s.device.connected = true → s'.device.connected = true)
    (hevents : ∀ e, s.device.Pending e → ∃ e', s'.device.Pending e')
    (hclk : s.device.scanClkStruct.active = true → s'.device.scanClkStruct.active = true)
    (hscans : s.scans ≤ s'.scans) (hassocs : s.assocs ≤ s'.assocs) : NotStuck s' := by
  intro hconn'
  have hconn₀ : s.device.connected = false := by
    by_contra hne
    rw [hconn (by simpa using hne)] at hconn'
    exact absurd hconn' (by decide)
  rcases h hconn₀ with ⟨e, he⟩ | hactive | hs | ha
  · exact Or.inl (hevents e he)
  · exact Or.inr (Or.inl (hclk hactive))
  · exact Or.inr (Or.inr (Or.inl (by omega)))
  · exact Or.inr (Or.inr (Or.inr (by omega)))

/-- A call of `process` leaves something to happen.

**Proof sketch.** Each event that is set is replaced by what its branch starts: a scan, an
association, the scan timer, or the next event. What was left without an event stays. -/
theorem notStuck_process {s : JoinState} (h : NotStuck s) :
    NotStuck ⟨s.device.process.1, s.scans + s.device.process.2.countP MacCall.isScanReq,
      s.assocs + s.device.process.2.countP MacCall.isAssociateReq⟩ := by
  intro hconn
  rw [FifteenDotFourDevice.connected_process] at hconn
  rcases h hconn with ⟨e, he⟩ | hactive | hs | ha
  · cases e with
    | join =>
      right; right; left
      simp only [countP_isScanReq_process, if_pos he]
      exact Nat.succ_pos _
    | accociate =>
      right; right; right
      simp only [countP_isAssociateReq_process, if_pos he]
      exact Nat.succ_pos _
    | idle =>
      right; left
      simp only [FifteenDotFourDevice.scanClkStruct_process, he, hconn, and_self, if_true]
      exact ClockStruct.active_setClock _ (by decide)
    | poll => exact Or.inl ⟨.idle, by simpa using he⟩
  · right; left
    simp only [FifteenDotFourDevice.scanClkStruct_process]
    split_ifs
    · exact ClockStruct.active_setClock _ (by decide)
    · exact hactive
  · exact Or.inr (Or.inr (Or.inl (Nat.lt_of_lt_of_le hs (Nat.le_add_right _ _))))
  · exact Or.inr (Or.inr (Or.inr (Nat.lt_of_lt_of_le ha (Nat.le_add_right _ _))))

/-- The confirm of a scan: it leaves something to happen unless it reports success and there was no
match. -/
theorem notStuck_scanCnf {s : JoinState} (hscans : 1 ≤ s.scans) (status : ApiMacStatus) :
    NotStuck ⟨s.device.scanCnfCB status, s.scans - 1, s.assocs⟩ ↔
      LeavesWork s (.scanCnf status) := by
  by_cases hok : status = .success
  · subst hok
    cases hmatch : s.device.panIdMatch with
    | true =>
      have hcb : s.device.scanCnfCB .success = s.device.setEvent .accociate := by
        simp [FifteenDotFourDevice.scanCnfCB, FifteenDotFourDevice.getPanIdMatch, hmatch]
      refine iff_of_true (notStuck_of_pending (e := .accociate) ?_) ?_
      · simp [hcb]
      · intro _ hne
        rw [hmatch] at hne
        exact absurd hne (by decide)
    | false =>
      have hcb : s.device.scanCnfCB .success = s.device := by
        simp [FifteenDotFourDevice.scanCnfCB, FifteenDotFourDevice.getPanIdMatch, hmatch]
      have hlt : 0 < s.scans - 1 ↔ 1 < s.scans := by omega
      simp only [hcb, NotStuck, LeavesWork, hmatch, hlt, forall_const]
  · refine iff_of_true (notStuck_of_pending (e := .idle) ?_) ?_
    · have hpend : (s.device.setEvent .idle).Pending .idle := by simp
      simp only [FifteenDotFourDevice.scanCnfCB, if_neg hok]
      split_ifs
      · exact hpend
      · exact hpend
    · intro heq
      exact absurd (DeviceStep.scanCnf.inj heq) hok

/-- **One step.** From a state that is not stuck, a step arrives in a state that is not stuck if and
only if it leaves work. -/
theorem notStuck_step {s s' : JoinState} {e : DeviceStep} {calls : List MacCall} (h : NotStuck s)
    (hs : joinMachine.step s e = some (s', calls)) : NotStuck s' ↔ LeavesWork s e := by
  obtain ⟨hscans, hassocs, d', hd, rfl⟩ := joinMachine_step_iff.mp hs
  have hother : e ≠ .scanCnf .success → NotStuck ⟨d',
      s.scans - confirmedScans e + calls.countP MacCall.isScanReq,
      s.assocs - confirmedAssocs e + calls.countP MacCall.isAssociateReq⟩ →
      (NotStuck ⟨d', s.scans - confirmedScans e + calls.countP MacCall.isScanReq,
        s.assocs - confirmedAssocs e + calls.countP MacCall.isAssociateReq⟩ ↔ LeavesWork s e) :=
    fun hne hn => iff_of_true hn fun heq => absurd heq hne
  cases stepsTo_of_step hd with
  | connect =>
    refine hother (by simp) (notStuck_of_pending (e := .join) ?_)
    simp [FifteenDotFourDevice.connect]
  | process => exact hother (by simp) (notStuck_process h)
  | scanTimeout =>
    refine hother (by simp) (notStuck_of_pending (e := .join) ?_)
    simp [FifteenDotFourDevice.processScanTimeoutCallback]
  | pollTimeout =>
    refine hother (by simp) (notStuck_of_pending (e := .poll) ?_)
    simp [FifteenDotFourDevice.processPollTimeoutCallback]
  | scanCnf status => exact notStuck_scanCnf hscans status
  | associateCnf status =>
    refine hother (by simp) fun hconn => ?_
    simp [FifteenDotFourDevice.associateCnfCB] at hconn
  | pollCnf status =>
    refine hother (by simp) ?_
    unfold FifteenDotFourDevice.pollCnfCb
    split_ifs
    · exact notStuck_of_pending (e := .idle) (by simp)
    · exact h
  | dataCnf status =>
    refine hother (by simp) ?_
    unfold FifteenDotFourDevice.dataCnfCB
    split_ifs
    · exact notStuck_of_pending (e := .poll) (by simp)
    · exact notStuck_of_pending (e := .idle) (by simp)
    · exact h
  | beaconNotifyInd pData =>
    refine hother (by simp) (h.mono ?_ ?_ ?_ (Nat.le_add_right _ _) (Nat.le_add_right _ _))
    · rw [FifteenDotFourDevice.beaconNotifyIndCb_frame]
      exact id
    · intro e he
      rw [FifteenDotFourDevice.beaconNotifyIndCb_frame]
      exact ⟨e, he⟩
    · rw [FifteenDotFourDevice.beaconNotifyIndCb_frame]
      exact id
  | dataInd hind =>
    have hframe := FifteenDotFourDevice.dataIndCB_frame hind
    refine hother (by simp) (h.mono ?_ ?_ ?_ (Nat.le_add_right _ _) (Nat.le_add_right _ _))
    · rw [hframe]
      exact id
    · intro e he
      rw [hframe]
      exact ⟨e, he⟩
    · rw [hframe]
      exact id

/-! ## Runs -/

/-- A device that has just begun and connected is not stuck: it is about to scan. -/
theorem notStuck_joinStart (d : FifteenDotFourDevice) (autoJoin : Bool) :
    NotStuck (joinStart d autoJoin) := by
  refine notStuck_of_pending (e := .join) ?_
  simp [joinStart, FifteenDotFourDevice.connect]

/-- **An unconnected device never gets stuck exactly if every step leaves work.** In a run of a
device that has begun and connected, on a MAC that accepts every scan and associate request and
confirms each once, no state is stuck if and only if no successful scan without a match ends all
that was left to happen. -/
theorem notStuck_iff_leavesWork (d : FifteenDotFourDevice) (autoJoin : Bool)
    {steps : List DeviceStep} {tr : List (Transition JoinState DeviceStep (List MacCall))}
    {s : JoinState} (h : joinMachine.exec (joinStart d autoJoin) steps = some (tr, s)) :
    (NotStuck (joinStart d autoJoin) ∧ ∀ t ∈ tr, NotStuck t.post) ↔
      ∀ t ∈ tr, LeavesWork t.pre t.event := by
  have hstart := notStuck_joinStart d autoJoin
  have hrun := forall_post_iff (fun _ _ _ _ hP hs => notStuck_step hP hs) hstart h
  rw [hrun]
  exact and_iff_right hstart

/-- A scan that finds no beacon, and the next one after the scan timer has expired. -/
theorem notStuck_iff_leavesWork_rescan :
    ∃ tr s, joinMachine.exec (joinStart sampleDevice false)
        [.process, .scanCnf .noBeacon, .process, .scanTimeout, .process] = some (tr, s) ∧
      ((NotStuck (joinStart sampleDevice false) ∧ ∀ t ∈ tr, NotStuck t.post) ↔
        ∀ t ∈ tr, LeavesWork t.pre t.event) := by
  obtain ⟨tr, s, hx⟩ : ∃ tr s, joinMachine.exec (joinStart sampleDevice false)
      [.process, .scanCnf .noBeacon, .process, .scanTimeout, .process] = some (tr, s) :=
    ⟨_, _, rfl⟩
  exact ⟨tr, s, hx, notStuck_iff_leavesWork sampleDevice false hx⟩

/-- After a scan that reports success but has found no beacon of the device's network, nothing is
left to happen. -/
theorem not_notStuck_scan_without_match :
    ∃ tr s, joinMachine.exec (joinStart sampleDevice false) [.process, .scanCnf .success] =
      some (tr, s) ∧ ¬ NotStuck s := by
  refine ⟨_, _, rfl, fun h => ?_⟩
  rcases h rfl with ⟨e, he⟩ | hactive | hscans | hassocs
  · revert he
    cases e <;> decide
  · exact absurd hactive (by decide)
  · exact absurd hscans (by decide)
  · exact absurd hassocs (by decide)

end SensorCollector
