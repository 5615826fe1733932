import SensorCollector.Device.Application

set_option relaxedAutoImplicit false
set_option autoImplicit false

/-!
# Events are kept

An event that is set should stay set until `process` has run its branch. Most callbacks add their
event to `revents`; the poll and the data confirm assign it instead, and so drop whatever else was
set. A run loses no event exactly if nothing else is set whenever one of the two assigns.

The runs have calls of `process` as a whole and its single branches as steps, so that a branch too
must leave the events of the others. Whether a branch has been run is told by its calls into the
MAC.

## Main definitions

* `SensorCollector.assigned` — the event a step assigns to `revents`.
* `SensorCollector.Executes` — a step of `process` makes the calls of a branch.
* `SensorCollector.NoEventLost` — in a run, every event stays set until its branch is run.
* `SensorCollector.KeepsEvents` — a step does not assign over another event.

## Main results

* `SensorCollector.retains_iff_keepsEvents` — one step keeps the events if and only if it does not
  assign over one.
* `SensorCollector.noEventLost_iff_keepsEvents` — the same for runs.
-/

namespace SensorCollector

open EventMachine

/-- The event that a step assigns to `revents`. -/
def assigned : AppStep → Option DeviceEvent
  | .device (.pollCnf status) => if status = .noData ∨ status = .success then some .idle else none
  | .device (.dataCnf status) =>
    if status = .noAck then some .poll else if status = .success then some .idle else none
  | _ => none

/-- The step is a call of `process`, or a single branch of it. -/
def AppStep.IsProcess (step : AppStep) : Prop :=
  step = .device .process ∨ ∃ f, step = .branch f

/-- The step runs the branch of the event: it is one of `process`, and makes the call into the MAC
that comes from this branch. -/
def Executes (e : DeviceEvent) (t : AppTransition) : Prop :=
  t.event.IsProcess ∧ ∃ call ∈ t.out, call.branch = some e

/-- In a run from `d₀`, every event that is set stays set until `process` has run its branch. -/
def NoEventLost (d₀ : FifteenDotFourDevice) (tr : List AppTransition) : Prop :=
  ∀ e tr₁ tr₂ tr₃, tr = tr₁ ++ tr₂ ++ tr₃ → (stateAfter d₀ tr₁).Pending e →
    (∃ t ∈ tr₂, Executes e t) ∨ (stateAfter d₀ (tr₁ ++ tr₂)).Pending e

/-- If the step assigns an event to `revents`, no other event is set before. -/
def KeepsEvents (d : FifteenDotFourDevice) (step : AppStep) : Prop :=
  ∀ f, assigned step = some f → ∀ e, d.Pending e → e = f

/-- A step that assigns does nothing else. -/
theorem step_of_assigned (d : FifteenDotFourDevice) {step : AppStep} {f : DeviceEvent}
    (h : assigned step = some f) : appMachine.step d step = some (d.assignEvent f, []) := by
  unfold assigned at h
  split at h
  · split_ifs at h with hs
    obtain rfl := Option.some.inj h
    simp only [appMachine, deviceMachine, FifteenDotFourDevice.pollCnfCb, if_pos hs]
  · split_ifs at h with hack hok
    · obtain rfl := Option.some.inj h
      simp only [appMachine, deviceMachine, FifteenDotFourDevice.dataCnfCB, if_pos hack]
    · obtain rfl := Option.some.inj h
      simp only [appMachine, deviceMachine, FifteenDotFourDevice.dataCnfCB, if_neg hack,
        if_pos hok]
  · cases h

/-- A branch of `process` keeps the events of the others. -/
theorem pending_of_processBranch (d : FifteenDotFourDevice) {e f : DeviceEvent}
    (he : d.Pending e) (hne : f ≠ e) : (d.processBranch f).1.Pending e := by
  cases f with
  | join => exact (d.pending_processJoin e).mpr ⟨he, hne.symm⟩
  | accociate => exact (d.pending_processAccociate e).mpr ⟨he, hne.symm⟩
  | idle => exact (d.pending_processIdle e).mpr ⟨he, hne.symm⟩
  | poll => exact (d.pending_processPoll e).mpr (Or.inl ⟨he, hne.symm⟩)

/-- A callback that does not assign keeps every event, and so does a timer. -/
theorem pending_of_stepsTo {d d' : FifteenDotFourDevice} {step : DeviceStep}
    {calls : List MacCall} (hs : StepsTo d step d' calls) (hproc : step ≠ .process)
    (h : assigned (.device step) = none) {e : DeviceEvent} (he : d.Pending e) : d'.Pending e := by
  cases hs with
  | connect => simp [FifteenDotFourDevice.connect, he]
  | process => exact absurd rfl hproc
  | scanTimeout =>
    rw [FifteenDotFourDevice.processScanTimeoutCallback, FifteenDotFourDevice.pending_setEvent]
    exact Or.inl he
  | pollTimeout =>
    rw [FifteenDotFourDevice.processPollTimeoutCallback, FifteenDotFourDevice.pending_setEvent]
    exact Or.inl he
  | scanCnf status => exact (d.pending_scanCnfCB e status).mpr (Or.inl he)
  | associateCnf status =>
    have hset : (d.setEvent .idle).Pending e := by simp [he]
    exact hset
  | pollCnf status =>
    simp only [assigned] at h
    split_ifs at h with hst
    rw [FifteenDotFourDevice.pollCnfCb, if_neg hst]
    exact he
  | dataCnf status =>
    simp only [assigned] at h
    split_ifs at h with hack hok
    rw [FifteenDotFourDevice.dataCnfCB, if_neg hack, if_neg hok]
    exact he
  | beaconNotifyInd pData =>
    rw [FifteenDotFourDevice.beaconNotifyIndCb_frame]
    exact he
  | dataInd hind =>
    rw [FifteenDotFourDevice.dataIndCB_frame hind]
    exact he

/-- **A step that does not assign** keeps every event, or runs its branch.

**Proof sketch.** A step of `process` that runs the branch makes its call (`branch_call_iff`); a
single branch keeps the events of the others. -/
theorem executes_or_pending {t : AppTransition}
    (hs : appMachine.step t.pre t.event = some (t.post, t.out)) (h : assigned t.event = none)
    {e : DeviceEvent} (he : t.pre.Pending e) : Executes e t ∨ t.post.Pending e := by
  obtain ⟨d, step, calls, d'⟩ := t
  dsimp only at hs h he ⊢
  cases step with
  | branch f =>
    by_cases hf : f = e
    · subst hf
      exact Or.inl ⟨Or.inr ⟨f, rfl⟩, (branch_call_iff hs f).mpr ⟨Or.inl rfl, he⟩⟩
    · rw [(of_step_branch hs).1]
      exact Or.inr (pending_of_processBranch d he hf)
  | device step =>
    by_cases hproc : step = .process
    · subst hproc
      exact Or.inl ⟨Or.inl rfl, (branch_call_iff hs e).mpr ⟨Or.inr rfl, he⟩⟩
    · exact Or.inr (pending_of_stepsTo (stepsTo_of_step hs) hproc h he)
  | _ =>
    obtain ⟨rfl, -⟩ := Prod.mk.inj (Option.some.inj hs)
    exact Or.inr he

/-- **One step** keeps every event, or runs its branch, if and only if it does not assign over
another event. -/
theorem retains_iff_keepsEvents {t : AppTransition}
    (hs : appMachine.step t.pre t.event = some (t.post, t.out)) :
    (∀ e, t.pre.Pending e → Executes e t ∨ t.post.Pending e) ↔ KeepsEvents t.pre t.event := by
  cases ha : assigned t.event with
  | some f =>
    have hpost : t.post = t.pre.assignEvent f := by
      rw [step_of_assigned t.pre ha, Option.some.injEq, Prod.mk.injEq] at hs
      exact hs.1.symm
    have hproc : ¬ t.event.IsProcess := by
      rintro (heq | ⟨f', heq⟩) <;>
      · rw [heq] at ha
        cases ha
    simp only [KeepsEvents, ha, Option.some.injEq, forall_eq', Executes, hproc, false_and,
      false_or, hpost, FifteenDotFourDevice.pending_assignEvent]
  | none =>
    refine iff_of_true (fun e he => executes_or_pending hs ha he) ?_
    intro f hf
    rw [ha] at hf
    cases hf

/-- An assignment loses every other event that is set. -/
theorem not_noEventLost_of_assigned {d₀ d : FifteenDotFourDevice} {steps : List AppStep}
    {tr : List AppTransition} (h : appMachine.exec d₀ steps = some (tr, d))
    {step : AppStep} {e f : DeviceEvent} (ha : assigned step = some f) (he : d.Pending e)
    (hne : e ≠ f) :
    ∃ tr' d', appMachine.exec d₀ (steps ++ [step]) = some (tr', d') ∧
      ¬ NoEventLost d₀ tr' := by
  refine ⟨_, _, (appMachine.exec_snoc_eq_some).mpr ⟨tr, d, [], h, step_of_assigned d ha, rfl⟩,
    fun hno => ?_⟩
  have hkept := hno e tr [⟨d, step, [], d.assignEvent f⟩] [] (List.append_nil _).symm
    (by rw [stateAfter_of_exec h]; exact he)
  rcases hkept with ⟨t, ht, hproc, -⟩ | hpend
  · obtain rfl := List.mem_singleton.mp ht
    rcases hproc with heq | ⟨f', heq⟩
    · obtain rfl : step = .device .process := heq
      cases ha
    · obtain rfl : step = .branch f' := heq
      cases ha
  · rw [stateAfter_concat, FifteenDotFourDevice.pending_assignEvent] at hpend
    exact hne hpend

/-- **No event is lost exactly if none is assigned over.** In a run of the device, with calls of
`process` as a whole or branch by branch, every event that is set stays set until `process` runs its
branch, if and only if no other event is set whenever a poll or data confirm assigns one.

**Proof sketch.** "Stays set until" is a property of single steps (`persists_iff`), and for these
it is `retains_iff_keepsEvents`. -/
theorem noEventLost_iff_keepsEvents {d₀ d : FifteenDotFourDevice} {steps : List AppStep}
    {tr : List AppTransition} (h : appMachine.exec d₀ steps = some (tr, d)) :
    NoEventLost d₀ tr ↔ ∀ t ∈ tr, KeepsEvents t.pre t.event := by
  have hstep : ∀ t ∈ tr, ((∀ e, t.pre.Pending e → Executes e t ∨ t.post.Pending e) ↔
      KeepsEvents t.pre t.event) :=
    fun t ht => retains_iff_keepsEvents (appMachine.step_of_mem_exec h ht)
  have hruns : NoEventLost d₀ tr ↔
      ∀ e, ∀ t ∈ tr, t.pre.Pending e → Executes e t ∨ t.post.Pending e :=
    forall_congr' fun e =>
      persists_iff (Q := fun d : FifteenDotFourDevice => d.Pending e) (R := Executes e) h
  rw [hruns]
  constructor
  · exact fun hall t ht => (hstep t ht).mp fun e => hall e t ht
  · exact fun hall e t ht => (hstep t ht).mpr (hall t ht) e

/-- A scan that finds no beacon, and the scan timer. The second call of `process` is run branch by
branch. -/
theorem noEventLost_iff_keepsEvents_rescan :
    ∃ tr d, appMachine.exec (sampleDevice.begin true)
        [.device .process, .device (.scanCnf .noBeacon), .branch .join, .branch .accociate,
          .branch .idle, .branch .poll, .device .scanTimeout] = some (tr, d) ∧
      (NoEventLost (sampleDevice.begin true) tr ↔ ∀ t ∈ tr, KeepsEvents t.pre t.event) := by
  obtain ⟨tr, d, hx⟩ : ∃ tr d, appMachine.exec (sampleDevice.begin true)
      [.device .process, .device (.scanCnf .noBeacon), .branch .join, .branch .accociate,
        .branch .idle, .branch .poll, .device .scanTimeout] = some (tr, d) :=
    ⟨_, _, rfl⟩
  exact ⟨tr, d, hx, noEventLost_iff_keepsEvents hx⟩

/-- A device that has joined polls its coordinator. While it waits with no event set, the poll timer
expires and sets `POLL_EVENT`; then the confirm of the poll before it arrives, and the event is
lost. -/
theorem not_noEventLost_poll :
    ∃ tr d, appMachine.exec ((sampleDevice.setPanID 0xFFFF).begin false)
        ([DeviceStep.connect, .process, .beaconNotifyInd sampleBeacon, .scanCnf .success, .process,
          .associateCnf .success, .process, .pollTimeout, .process, .process,
          .pollTimeout].map .device ++ [.device (.pollCnf .noData)]) = some (tr, d) ∧
      ¬ NoEventLost ((sampleDevice.setPanID 0xFFFF).begin false) tr := by
  obtain ⟨tr, d, hx, he⟩ : ∃ tr d, appMachine.exec ((sampleDevice.setPanID 0xFFFF).begin false)
      ([DeviceStep.connect, .process, .beaconNotifyInd sampleBeacon, .scanCnf .success, .process,
        .associateCnf .success, .process, .pollTimeout, .process, .process,
        .pollTimeout].map .device) = some (tr, d) ∧ d.Pending .poll :=
    ⟨_, _, rfl, by decide⟩
  exact not_noEventLost_of_assigned hx rfl he (by decide)

end SensorCollector
