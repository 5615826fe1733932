import SensorCollector.Device.Events

set_option relaxedAutoImplicit false
set_option autoImplicit false

/-!
# What `connected` means

A device should be connected only after an association has been accepted. The callback of the
associate confirm does not read its status, so the device is connected from the first confirm on,
and that must have been a success.

## Main definitions

* `SensorCollector.confirms` — the statuses of the associate confirms of a run.
* `SensorCollector.ConnectedMeansAccepted` — the device is connected only after a success.

## Main results

* `SensorCollector.connected_iff_of_exec` — a device is connected after the first confirm.
* `SensorCollector.connectedMeansAccepted_iff` — the runs in which that was a success.
-/

namespace SensorCollector

open EventMachine

/-- The status of an associate confirm, if the step delivers one. -/
def DeviceStep.assocStatus : DeviceStep → Option ApiMacAssocStatus
  | .associateCnf status => some status
  | _ => none

/-- The statuses of the associate confirms of a list of steps, in order. -/
def confirms (steps : List DeviceStep) : List ApiMacAssocStatus :=
  steps.filterMap DeviceStep.assocStatus

/-- Whenever a step of the history arrives in a state that is connected, that step or one before it
has delivered an associate confirm with status success. -/
def ConnectedMeansAccepted (tr : List DeviceTransition) : Prop :=
  ∀ tr₁ t tr₂, tr = tr₁ ++ t :: tr₂ → t.post.connected = true →
    ∃ u ∈ tr₁ ++ [t], u.event = .associateCnf .success

/-- The confirms of a list of steps with one more. -/
theorem confirms_concat (steps : List DeviceStep) (step : DeviceStep) :
    confirms (steps ++ [step]) = confirms steps ++ step.assocStatus.toList := by
  rw [confirms, List.filterMap_append]
  cases h : step.assocStatus <;> simp [h, confirms]

/-- A confirm with the given status is one of the confirms. -/
theorem mem_confirms {steps : List DeviceStep} {status : ApiMacAssocStatus} :
    status ∈ confirms steps ↔ DeviceStep.associateCnf status ∈ steps := by
  rw [confirms, List.mem_filterMap]
  constructor
  · rintro ⟨step, hstep, hstatus⟩
    cases step with
    | associateCnf status' =>
      obtain rfl : status' = status := Option.some.inj hstatus
      exact hstep
    | _ => cases hstatus
  · exact fun h => ⟨_, h, rfl⟩

/-- A step connects the device if it delivers an associate confirm, and does not disconnect it. -/
theorem connected_step {d d' : FifteenDotFourDevice} {step : DeviceStep} {calls : List MacCall}
    (hs : deviceMachine.step d step = some (d', calls)) :
    d'.connected = true ↔ d.connected = true ∨ step.assocStatus ≠ none := by
  cases stepsTo_of_step hs with
  | connect => simp [DeviceStep.assocStatus, FifteenDotFourDevice.connect]
  | process => simp [DeviceStep.assocStatus]
  | scanTimeout =>
    simp [DeviceStep.assocStatus, FifteenDotFourDevice.processScanTimeoutCallback]
  | pollTimeout =>
    simp [DeviceStep.assocStatus, FifteenDotFourDevice.processPollTimeoutCallback]
  | scanCnf status =>
    rw [FifteenDotFourDevice.scanCnfCB_frame]
    simp [DeviceStep.assocStatus]
  | associateCnf status =>
    simp [DeviceStep.assocStatus, FifteenDotFourDevice.associateCnfCB]
  | pollCnf status =>
    rw [FifteenDotFourDevice.pollCnfCb_frame]
    simp [DeviceStep.assocStatus]
  | dataCnf status =>
    rw [FifteenDotFourDevice.dataCnfCB_frame]
    simp [DeviceStep.assocStatus]
  | beaconNotifyInd pData =>
    rw [FifteenDotFourDevice.beaconNotifyIndCb_frame]
    simp [DeviceStep.assocStatus]
  | dataInd hind =>
    rw [FifteenDotFourDevice.dataIndCB_frame hind]
    simp [DeviceStep.assocStatus]

/-- **A device is connected after the first associate confirm**, whatever its status. -/
theorem connected_iff_of_exec {d₀ d : FifteenDotFourDevice} (h0 : d₀.connected = false)
    {steps : List DeviceStep} {tr : List DeviceTransition}
    (h : deviceMachine.exec d₀ steps = some (tr, d)) :
    d.connected = true ↔ confirms steps ≠ [] := by
  refine deviceMachine.exec_induction
    (P := fun steps _ d => d.connected = true ↔ confirms steps ≠ []) (by simp [h0, confirms]) ?_ h
  intro steps tr d step d' calls _ ih hs
  rw [connected_step hs, ih, confirms_concat]
  cases step.assocStatus <;> simp

/-- The device is connected after a step if a confirm was delivered up to that step. -/
theorem connected_post_iff {d₀ d : FifteenDotFourDevice} (h0 : d₀.connected = false)
    {steps : List DeviceStep} {tr₁ tr₂ : List DeviceTransition} {t : DeviceTransition}
    (h : deviceMachine.exec d₀ steps = some (tr₁ ++ t :: tr₂, d)) :
    t.post.connected = true ↔ confirms ((tr₁ ++ [t]).map Transition.event) ≠ [] := by
  obtain ⟨hx, hs⟩ := deviceMachine.exec_split h
  have hx' := (deviceMachine.exec_snoc_eq_some).mpr ⟨tr₁, t.pre, t.out, hx, hs, rfl⟩
  rw [connected_iff_of_exec h0 hx', List.map_append]
  rfl

/-- If the device is connected only after a success, the first confirm is a success: after the step
that delivers it the device is connected, and no other confirm has been delivered yet. -/
theorem success_of_connectedMeansAccepted {d₀ d : FifteenDotFourDevice}
    (h0 : d₀.connected = false) {steps : List DeviceStep} {tr : List DeviceTransition}
    (h : deviceMachine.exec d₀ steps = some (tr, d)) (hacc : ConnectedMeansAccepted tr)
    {status : ApiMacAssocStatus} (hhead : (confirms steps).head? = some status) :
    status = .success := by
  obtain ⟨rest, hrest⟩ := List.head?_eq_some_iff.mp hhead
  rw [← deviceMachine.map_event_of_exec h, confirms, List.filterMap_map] at hrest
  obtain ⟨tr₁, t, tr₂, rfl, hnone, hstatus, -⟩ := List.filterMap_eq_cons_iff.mp hrest
  replace hstatus : t.event.assocStatus = some status := hstatus
  have hpost : t.post.connected = true := by
    rw [connected_post_iff h0 h, List.map_append, List.map_singleton, confirms_concat, hstatus]
    simp
  obtain ⟨u, hu, hevent⟩ := hacc tr₁ t tr₂ rfl hpost
  rcases List.mem_append.mp hu with hu₁ | hu₂
  · have hu' : u.event.assocStatus = none := hnone u hu₁
    rw [hevent] at hu'
    cases hu'
  · obtain rfl := List.mem_singleton.mp hu₂
    rw [hevent] at hstatus
    exact (Option.some.inj hstatus).symm

/-- **`connected` means an accepted association exactly if the first confirm is a success.** In a
run of a device that is not connected at the start, the device is connected only after an associate
confirm with status success, if and only if the first associate confirm of the run, if there is one,
has status success.

**Proof sketch.** One direction is `success_of_connectedMeansAccepted`. Conversely every connected
state comes after the first confirm. -/
theorem connectedMeansAccepted_iff {d₀ d : FifteenDotFourDevice} (h0 : d₀.connected = false)
    {steps : List DeviceStep} {tr : List DeviceTransition}
    (h : deviceMachine.exec d₀ steps = some (tr, d)) :
    ConnectedMeansAccepted tr ↔
      ∀ status, (confirms steps).head? = some status → status = .success := by
  constructor
  · exact fun hacc status => success_of_connectedMeansAccepted h0 h hacc
  · rintro hfirst tr₁ t tr₂ rfl hpost
    have hne := (connected_post_iff h0 h).mp hpost
    obtain ⟨status, rest, hcons⟩ := List.exists_cons_of_ne_nil hne
    have hsplit : steps = (tr₁ ++ [t]).map Transition.event ++ tr₂.map Transition.event := by
      rw [← deviceMachine.map_event_of_exec h]
      simp
    have hhead : (confirms steps).head? = some status := by
      rw [hsplit, confirms, List.filterMap_append]
      change (confirms _ ++ confirms _).head? = _
      rw [hcons]
      rfl
    obtain rfl := hfirst status hhead
    have hmem : DeviceStep.associateCnf .success ∈ (tr₁ ++ [t]).map Transition.event := by
      rw [← mem_confirms, hcons]
      exact List.mem_cons_self
    obtain ⟨u, hu, hevent⟩ := List.mem_map.mp hmem
    exact ⟨u, hu, hevent⟩

/-- A device that is accepted by its coordinator. -/
theorem connectedMeansAccepted_iff_accepted :
    ∃ tr d, deviceMachine.exec (sampleDevice.begin true)
        [.process, .scanCnf .success, .associateCnf .success, .process] = some (tr, d) ∧
      (ConnectedMeansAccepted tr ↔ ∀ status, (confirms
        [.process, .scanCnf .success, .associateCnf .success, .process]).head? = some status →
          status = .success) := by
  obtain ⟨tr, d, hx⟩ : ∃ tr d, deviceMachine.exec (sampleDevice.begin true)
      [.process, .scanCnf .success, .associateCnf .success, .process] = some (tr, d) :=
    ⟨_, _, rfl⟩
  exact ⟨tr, d, hx, connectedMeansAccepted_iff rfl hx⟩

/-- A device whose association is refused, because the network is at its capacity, is connected. -/
theorem not_connectedMeansAccepted_refused :
    ∃ tr d, deviceMachine.exec ((sampleDevice.setPanID 0xFFFF).begin false)
        [.connect, .process, .beaconNotifyInd sampleBeacon, .scanCnf .success, .process,
          .associateCnf .panAtCapacity] = some (tr, d) ∧ ¬ ConnectedMeansAccepted tr := by
  obtain ⟨tr, d, hx⟩ : ∃ tr d, deviceMachine.exec ((sampleDevice.setPanID 0xFFFF).begin false)
      [.connect, .process, .beaconNotifyInd sampleBeacon, .scanCnf .success, .process,
        .associateCnf .panAtCapacity] = some (tr, d) :=
    ⟨_, _, rfl⟩
  refine ⟨tr, d, hx, fun hacc => ?_⟩
  have hsuccess := success_of_connectedMeansAccepted rfl hx hacc rfl
  exact absurd hsuccess (by decide)

end SensorCollector
