import SensorCollector.Device.Application

set_option relaxedAutoImplicit false
set_option autoImplicit false

/-!
# Polling

A connected device polls its coordinator. It should go on doing so: the poll timer is running, or
the event that starts it or the event that polls is set. And it should poll the coordinator that it
has associated with.

The first holds in every run: each of the three is given up only for another. The second can fail,
because the poll request is filled from members that every matching beacon rewrites.

## Main definitions

* `SensorCollector.KeepsPolling` — the next poll of a connected device is coming.
* `SensorCollector.PollAfter` — a poll, and the association it comes after.
* `SensorCollector.PollsOwnCoordinator` — each poll is addressed to what the device has associated
  with.
* `SensorCollector.KeepsCoordinator` — what is last written to the members before a poll is what the
  associate request carried.

## Main results

* `SensorCollector.keepsPolling_of_exec` — a connected device never stops polling.
* `SensorCollector.pollsOwnCoordinator_iff` — the runs in which it polls its own coordinator.
-/

namespace SensorCollector

open EventMachine FifteenDotFourDevice

/-! ## A connected device goes on polling -/

/-- If the device is connected, its poll timer is active, or `IDLE_EVENT` or `POLL_EVENT` is set. -/
def KeepsPolling (d : FifteenDotFourDevice) : Prop :=
  d.connected = true →
    d.pollClkStruct.active = true ∨ d.Pending .idle ∨ d.Pending .poll

/-- A state keeps polling if it keeps the timer and the events of one that does. -/
theorem KeepsPolling.mono {d d' : FifteenDotFourDevice} (h : KeepsPolling d)
    (hconn : d'.connected = d.connected) (hclk : d'.pollClkStruct = d.pollClkStruct)
    (hpend : ∀ e, d.Pending e → d'.Pending e) : KeepsPolling d' := by
  intro hconn'
  rw [hclk]
  rw [hconn] at hconn'
  rcases h hconn' with hactive | hidle | hpoll
  · exact Or.inl hactive
  · exact Or.inr (Or.inl (hpend .idle hidle))
  · exact Or.inr (Or.inr (hpend .poll hpoll))

/-- Setting an event keeps polling. -/
theorem KeepsPolling.setEvent {d : FifteenDotFourDevice} (h : KeepsPolling d) (e : DeviceEvent) :
    KeepsPolling (d.setEvent e) := by
  refine h.mono rfl rfl fun f hf => ?_
  rw [pending_setEvent]
  exact Or.inl hf

/-- A state with `IDLE_EVENT` set keeps polling. -/
theorem keepsPolling_of_idle {d : FifteenDotFourDevice} (h : d.Pending .idle) : KeepsPolling d :=
  fun _ => Or.inr (Or.inl h)

/-- A state with `POLL_EVENT` set keeps polling. -/
theorem keepsPolling_of_poll {d : FifteenDotFourDevice} (h : d.Pending .poll) : KeepsPolling d :=
  fun _ => Or.inr (Or.inr h)

/-- **Each branch of `process` keeps polling.**

**Proof sketch.** The branch for `IDLE_EVENT` starts the timer of a connected device, and the branch
for `POLL_EVENT` sets `IDLE_EVENT`. The other two clear other events. -/
theorem KeepsPolling.processBranch {d : FifteenDotFourDevice} (h : KeepsPolling d)
    (e : DeviceEvent) : KeepsPolling (d.processBranch e).1 := by
  intro hconn
  rw [processBranch_frame] at hconn
  cases e with
  | join =>
    have hclk : d.processJoin.1.pollClkStruct = d.pollClkStruct := by rw [processJoin_frame]
    simpa only [FifteenDotFourDevice.processBranch, hclk, pending_processJoin, ne_eq,
      reduceCtorEq, not_false_eq_true, and_true] using h hconn
  | accociate =>
    have hclk : d.processAccociate.1.pollClkStruct = d.pollClkStruct := by
      rw [processAccociate_frame]
    simpa only [FifteenDotFourDevice.processBranch, hclk, pending_processAccociate, ne_eq,
      reduceCtorEq, not_false_eq_true, and_true] using h hconn
  | idle =>
    by_cases hidle : d.Pending .idle
    · left
      rw [FifteenDotFourDevice.processBranch, processIdle_frame]
      simp only [hidle, show d.connected = true from hconn, and_self, if_true]
      exact ClockStruct.active_setClock _ (by decide)
    · have hsame : d.processIdle = (d, []) := if_neg hidle
      rw [FifteenDotFourDevice.processBranch, hsame]
      exact h hconn
  | poll =>
    by_cases hpoll : d.Pending .poll
    · exact Or.inr (Or.inl ((d.pending_processPoll .idle).mpr (Or.inr ⟨hpoll, rfl⟩)))
    · have hsame : d.processPoll = (d, []) := if_neg hpoll
      rw [FifteenDotFourDevice.processBranch, hsame]
      exact h hconn

/-- **One step** keeps polling. -/
theorem KeepsPolling.step {d d' : FifteenDotFourDevice} {step : AppStep} {calls : List MacCall}
    (h : KeepsPolling d) (hs : appMachine.step d step = some (d', calls)) : KeepsPolling d' := by
  cases step with
  | branch e =>
    rw [(of_step_branch hs).1]
    exact h.processBranch e
  | device step =>
    cases stepsTo_of_step hs with
    | connect => exact h.setEvent .join
    | process =>
      exact (((h.processBranch .join).processBranch .accociate).processBranch .idle).processBranch
        .poll
    | scanTimeout _ => exact (h.mono rfl rfl fun _ he => he : KeepsPolling
        { d with scanClkStruct := d.scanClkStruct.timerStop }).setEvent .join
    | pollTimeout _ =>
      refine keepsPolling_of_poll ?_
      rw [processPollTimeoutCallback, pending_setEvent]
      exact Or.inr rfl
    | scanCnf status =>
      unfold scanCnfCB
      dsimp only
      split_ifs
      · exact h.setEvent .accociate
      · exact h
      · exact (h.setEvent .idle).mono rfl rfl fun _ he => he
      · exact h.setEvent .idle
    | associateCnf status =>
      have hidle : (d.setEvent .idle).Pending .idle := by simp
      exact keepsPolling_of_idle hidle
    | pollCnf status =>
      unfold pollCnfCb
      split_ifs
      · exact keepsPolling_of_idle (by simp)
      · exact h
    | dataCnf status =>
      unfold dataCnfCB
      split_ifs
      · exact keepsPolling_of_poll (by simp)
      · exact keepsPolling_of_idle (by simp)
      · exact h
    | beaconNotifyInd pData =>
      rw [beaconNotifyIndCb_frame]
      exact h.mono rfl rfl fun _ he => he
    | dataInd hind =>
      rw [dataIndCB_frame hind]
      exact h.mono rfl rfl fun _ he => he
  | _ =>
    obtain ⟨rfl, -⟩ := Prod.mk.inj (Option.some.inj hs)
    exact h.mono rfl rfl fun _ he => he

/-- **A connected device never stops polling.** In every state that a device reaches after a single
call of `begin`, whatever its application, its timers and the MAC do and wherever a branch of
`process` is interrupted: if it is connected, its poll timer is active, or `IDLE_EVENT` is set, or
`POLL_EVENT` is set. -/
theorem keepsPolling_of_exec {d₀ d : FifteenDotFourDevice} (h0 : d₀.connected = false)
    (autoJoin : Bool) {steps : List AppStep} {tr : List AppTransition}
    (h : appMachine.exec (d₀.begin autoJoin) steps = some (tr, d)) :
    d.connected = true →
      d.pollClkStruct.active = true ∨ d.Pending .idle ∨ d.Pending .poll := by
  have hstart : KeepsPolling (d₀.begin autoJoin) := by
    have hconn : (d₀.begin autoJoin).connected = d₀.connected := by
      cases autoJoin <;> rfl
    intro htrue
    rw [hconn, h0] at htrue
    cases htrue
  exact appMachine.exec_induction (P := fun _ _ d => KeepsPolling d) hstart
    (fun _ _ _ _ _ _ _ ih hs => ih.step hs) h

/-- A device that is connected and polls. -/
theorem keepsPolling_of_exec_connected :
    ∃ tr d, appMachine.exec (sampleDevice.begin true)
        [.branch .join, .device (.associateCnf .success), .branch .idle, .device .pollTimeout,
          .branch .poll] = some (tr, d) ∧ d.connected = true ∧
      (d.pollClkStruct.active = true ∨ d.Pending .idle ∨ d.Pending .poll) := by
  obtain ⟨tr, d, hx, hconn⟩ : ∃ tr d, appMachine.exec (sampleDevice.begin true)
      [.branch .join, .device (.associateCnf .success), .branch .idle, .device .pollTimeout,
        .branch .poll] = some (tr, d) ∧ d.connected = true :=
    ⟨_, _, rfl, rfl⟩
  exact ⟨tr, d, hx, hconn, keepsPolling_of_exec rfl true hx hconn⟩

/-! ## Which coordinator is polled -/

/-- In the history, `mid` lies between the steps `r` and `t`, and the latest associate confirm
before `t` answers a request of `r`: the confirm at position `k` of the history answers the request
at position `ans k`. -/
def PollAfter (ans : ℕ → ℕ) (tr : List AppTransition) (r : AppTransition)
    (mid : List AppTransition) (t : AppTransition) : Prop :=
  ∃ tr₁ tr₂ c tr₃ tr₄, tr = tr₁ ++ r :: (mid ++ t :: tr₄) ∧ mid = tr₂ ++ c :: tr₃ ∧
    c.event.isAssociateCnf = true ∧ (∀ u ∈ tr₃, u.event.isAssociateCnf = false) ∧
    ans (tr₁ ++ r :: tr₂).length = tr₁.length

/-- Every poll request that is made while the device is connected carries the PAN and the short
address of the associate request whose confirm arrived most recently. -/
def PollsOwnCoordinator (ans : ℕ → ℕ) (tr : List AppTransition) : Prop :=
  ∀ r mid t, PollAfter ans tr r mid t → ∀ req, .mlmeAssociateReq req ∈ r.out →
    ∀ poll, .mlmePollReq poll ∈ t.out → t.pre.connected = true →
    poll.coordPanId = req.coordPanId ∧ poll.coordAddress.shortAddr = req.coordAddress.shortAddr

/-- What a history last writes to `panID`. -/
def lastPan (tr : List AppTransition) : Option UInt16 :=
  (tr.filterMap fun t => panWritten t.pre t.event).getLast?

/-- What a history last writes to `coordShortAddr`. -/
def lastAddr (tr : List AppTransition) : Option UInt16 :=
  (tr.filterMap fun t => addrWritten t.pre t.event).getLast?

/-- Whenever a poll is due, what was last written to `panID` and to `coordShortAddr` since the
associate request, if anything was, is what they were at that request. -/
def KeepsCoordinator (ans : ℕ → ℕ) (tr : List AppTransition) : Prop :=
  ∀ r mid t, PollAfter ans tr r mid t → RunsBranch .accociate r.pre r.event →
    RunsBranch .poll t.pre t.event →
    (∀ id, lastPan mid = some id → id = r.pre.panID) ∧
      ∀ addr, lastAddr mid = some addr → addr = r.pre.coordShortAddr

/-- A value that may have been written is the old one if and only if what was written, if anything,
is the old one. -/
theorem getD_eq_self_iff {α : Type*} (o : Option α) (a : α) :
    o.getD a = a ↔ ∀ b, o = some b → b = a := by
  cases o <;> simp

/-- A connected device stays connected. -/
theorem connected_of_exec {d₀ d : FifteenDotFourDevice} (h0 : d₀.connected = true)
    {steps : List AppStep} {tr : List AppTransition}
    (h : appMachine.exec d₀ steps = some (tr, d)) : d.connected = true := by
  refine appMachine.exec_induction (P := fun _ _ d => d.connected = true) h0 ?_ h
  intro _ _ _ _ _ _ _ ih hs
  exact (connected_of_appStep hs).mpr (Or.inl ih)

/-- The device is connected when a poll after an association is due. -/
theorem connected_of_pollAfter {d₀ d : FifteenDotFourDevice} {steps : List AppStep}
    {tr : List AppTransition} (h : appMachine.exec d₀ steps = some (tr, d)) {ans : ℕ → ℕ}
    {r t : AppTransition} {mid : List AppTransition} (hafter : PollAfter ans tr r mid t) :
    t.pre.connected = true := by
  obtain ⟨tr₁, tr₂, c, tr₃, tr₄, rfl, rfl, hcnf, -, -⟩ := hafter
  have hassoc : tr₁ ++ r :: (tr₂ ++ c :: tr₃ ++ t :: tr₄) =
      (tr₁ ++ r :: tr₂) ++ c :: (tr₃ ++ t :: tr₄) := by simp
  rw [hassoc] at h
  have hpost : c.post.connected = true :=
    (connected_of_appStep (appMachine.exec_split h).2).mpr (Or.inr hcnf)
  exact connected_of_exec hpost (appMachine.exec_between h)

/-- The members a poll request is filled from are what was last written to them since the associate
request, or what they were at that request. -/
theorem members_of_pollAfter {d₀ d : FifteenDotFourDevice} {steps : List AppStep}
    {tr : List AppTransition} (h : appMachine.exec d₀ steps = some (tr, d)) {ans : ℕ → ℕ}
    {r t : AppTransition} {mid : List AppTransition} (hafter : PollAfter ans tr r mid t)
    (hr : RunsBranch .accociate r.pre r.event) :
    t.pre.panID = (lastPan mid).getD r.pre.panID ∧
      t.pre.coordShortAddr = (lastAddr mid).getD r.pre.coordShortAddr := by
  obtain ⟨tr₁, _, _, _, tr₄, rfl, -⟩ := hafter
  -- the step of the request itself writes nothing
  obtain ⟨hpan, -, haddr, -⟩ := members_of_step (appMachine.exec_split h).2
  have hnone : panWritten r.pre r.event = none ∧ addrWritten r.pre r.event = none := by
    rcases hr.1 with hevent | hevent
    · rw [hevent]
      exact ⟨rfl, rfl⟩
    · rw [hevent]
      exact ⟨rfl, rfl⟩
  rw [hnone.1, Option.getD_none] at hpan
  rw [hnone.2, Option.getD_none] at haddr
  have hmid := appMachine.exec_between h
  rw [← hpan, ← haddr]
  constructor
  · exact eq_last_write (f := FifteenDotFourDevice.panID) appMachine
      (fun _ _ _ _ hs => (members_of_step hs).1) hmid
  · exact eq_last_write appMachine (fun _ _ _ _ hs => (members_of_step hs).2.2.1) hmid

/-- A poll request carries what the associate request carried if and only if that is what was last
written to the members in between. -/
theorem pollReq_eq_iff {d₀ d : FifteenDotFourDevice} {steps : List AppStep}
    {tr : List AppTransition} (h : appMachine.exec d₀ steps = some (tr, d)) {ans : ℕ → ℕ}
    {r t : AppTransition} {mid : List AppTransition} (hafter : PollAfter ans tr r mid t)
    (hr : RunsBranch .accociate r.pre r.event) :
    (t.pre.pollReq.coordPanId = r.pre.assocReq.coordPanId ∧
        t.pre.pollReq.coordAddress.shortAddr = r.pre.assocReq.coordAddress.shortAddr) ↔
      (∀ id, lastPan mid = some id → id = r.pre.panID) ∧
        ∀ addr, lastAddr mid = some addr → addr = r.pre.coordShortAddr := by
  obtain ⟨hpan, haddr⟩ := members_of_pollAfter h hafter hr
  rw [← getD_eq_self_iff, ← getD_eq_self_iff, ← hpan, ← haddr]
  rfl

/-- The two requests of a poll after an association, as steps of the run. -/
theorem requests_of_pollAfter {d₀ d : FifteenDotFourDevice} {steps : List AppStep}
    {tr : List AppTransition} (h : appMachine.exec d₀ steps = some (tr, d)) {ans : ℕ → ℕ}
    {r t : AppTransition} {mid : List AppTransition} (hafter : PollAfter ans tr r mid t) :
    (∀ req, .mlmeAssociateReq req ∈ r.out ↔
        RunsBranch .accociate r.pre r.event ∧ req = r.pre.assocReq) ∧
      ∀ poll, .mlmePollReq poll ∈ t.out ↔
        RunsBranch .poll t.pre t.event ∧ poll = t.pre.pollReq := by
  obtain ⟨tr₁, _, _, _, tr₄, rfl, -⟩ := hafter
  have hr : r ∈ tr₁ ++ r :: (mid ++ t :: tr₄) := by simp
  have ht : t ∈ tr₁ ++ r :: (mid ++ t :: tr₄) := by simp
  exact ⟨(requests_of_step (appMachine.step_of_mem_exec h hr)).2.1,
    (requests_of_step (appMachine.step_of_mem_exec h ht)).2.2⟩

/-- If every poll goes to the device's own coordinator, nothing else was written to the members. -/
theorem keepsCoordinator_of_pollsOwnCoordinator {d₀ d : FifteenDotFourDevice}
    {steps : List AppStep} {tr : List AppTransition}
    (h : appMachine.exec d₀ steps = some (tr, d)) {ans : ℕ → ℕ}
    (hpolls : PollsOwnCoordinator ans tr) : KeepsCoordinator ans tr := by
  intro r mid t hafter hr ht
  obtain ⟨hassoc, hpoll⟩ := requests_of_pollAfter h hafter
  apply (pollReq_eq_iff h hafter hr).mp
  exact hpolls r mid t hafter _ ((hassoc _).mpr ⟨hr, rfl⟩) _ ((hpoll _).mpr ⟨ht, rfl⟩)
    (connected_of_pollAfter h hafter)

/-- **A connected device polls its own coordinator exactly if nothing else is written to the
members.** In a run of a device, every poll request that is made while it is connected carries the
PAN and the short address of the associate request whose confirm arrived most recently, if and only
if, whenever a poll is due, the beacons that the device has adopted since that request, and the
calls of the setters, have left the same PAN and the same short address. -/
theorem pollsOwnCoordinator_iff {d₀ d : FifteenDotFourDevice} {steps : List AppStep}
    {tr : List AppTransition} (h : appMachine.exec d₀ steps = some (tr, d)) (ans : ℕ → ℕ) :
    PollsOwnCoordinator ans tr ↔ KeepsCoordinator ans tr := by
  constructor
  · exact keepsCoordinator_of_pollsOwnCoordinator h
  · intro hkeeps r mid t hafter req hreq poll hpollreq _
    obtain ⟨hassoc, hpoll⟩ := requests_of_pollAfter h hafter
    obtain ⟨hr, rfl⟩ := (hassoc req).mp hreq
    obtain ⟨ht, rfl⟩ := (hpoll poll).mp hpollreq
    exact (pollReq_eq_iff h hafter hr).mpr (hkeeps r mid t hafter hr ht)

/-- The beacon of another coordinator of the same network. -/
def otherBeacon : ApiMacMlmeBeaconNotifyInd :=
  ⟨.normal, ⟨⟨0x0001, .short⟩, 0xFAFA, 0x80FF, 3⟩⟩

/-- A device that joins and polls. -/
theorem pollsOwnCoordinator_iff_poll :
    ∃ tr d, appMachine.exec ((sampleDevice.setPanID 0xFFFF).begin true)
        [.device .process, .device (.beaconNotifyInd sampleBeacon), .device (.scanCnf .success),
          .device .process, .device (.associateCnf .success), .device .process,
          .device .pollTimeout, .device .process] = some (tr, d) ∧
      (PollsOwnCoordinator (fun _ => 3) tr ↔ KeepsCoordinator (fun _ => 3) tr) := by
  obtain ⟨tr, d, hx⟩ : ∃ tr d, appMachine.exec ((sampleDevice.setPanID 0xFFFF).begin true)
      [.device .process, .device (.beaconNotifyInd sampleBeacon), .device (.scanCnf .success),
        .device .process, .device (.associateCnf .success), .device .process,
        .device .pollTimeout, .device .process] = some (tr, d) := ⟨_, _, rfl⟩
  exact ⟨tr, d, hx, pollsOwnCoordinator_iff hx fun _ => 3⟩

/-- A device that has joined receives a beacon of another coordinator of the same network, and polls
that one. -/
theorem not_pollsOwnCoordinator_other_beacon :
    ∃ tr d, appMachine.exec ((sampleDevice.setPanID 0xFFFF).begin false)
        [.device .connect, .device .process, .device (.beaconNotifyInd sampleBeacon),
          .device (.scanCnf .success), .device .process, .device (.associateCnf .success),
          .device .process, .device (.beaconNotifyInd otherBeacon), .device .pollTimeout,
          .device .process] = some (tr, d) ∧
      ¬ PollsOwnCoordinator (fun _ => 4) tr := by
  obtain ⟨tr, d, hx, hnot⟩ :
      ∃ tr d, appMachine.exec ((sampleDevice.setPanID 0xFFFF).begin false)
        [.device .connect, .device .process, .device (.beaconNotifyInd sampleBeacon),
          .device (.scanCnf .success), .device .process, .device (.associateCnf .success),
          .device .process, .device (.beaconNotifyInd otherBeacon), .device .pollTimeout,
          .device .process] = some (tr, d) ∧ ¬ KeepsCoordinator (fun _ => 4) tr := by
    refine ⟨_, _, rfl, fun hkeeps => ?_⟩
    have hafter := hkeeps _ [_, _, _, _] _
      ⟨[_, _, _, _], [], _, [_, _, _], [], rfl, rfl, rfl, by simp [AppStep.isAssociateCnf], rfl⟩
    have haddr := (hafter ⟨Or.inr rfl, by decide⟩ ⟨Or.inr rfl, by decide⟩).2 0x0001
      (by decide +kernel)
    exact absurd haddr (by decide)
  exact ⟨tr, d, hx, fun hpolls => hnot (keepsCoordinator_of_pollsOwnCoordinator hx hpolls)⟩

end SensorCollector
