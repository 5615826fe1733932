import SensorCollector.Device.Application

set_option relaxedAutoImplicit false
set_option autoImplicit false

/-!
# Beacons, matches and associations

A device associates after a scan in which it has met a beacon of its network. Two things are asked
of that: an associate request should be addressed to one beacon that was really received, and that
beacon should have been received in the scan that is being confirmed.

The first holds as long as the application does not change the members after the match. The second
can fail, because `panIdMatch` is never reset: what one scan has found still counts in the next.

## Main definitions

* `SensorCollector.TargetsBeacon` — every associate request is addressed to one beacon received
  before.
* `SensorCollector.SettersBeforeMatch` — the setters are called only while there is no match.
* `SensorCollector.AssociatesFromScan` — an association is scheduled only by a scan that has met a
  matching beacon.
* `SensorCollector.EmptyScansBeforeMatch` — a scan that reports success without a matching beacon
  comes before the first match.

## Main results

* `SensorCollector.targetsBeacon_of_exec` — the runs in which associate requests are addressed to
  one beacon.
* `SensorCollector.associatesFromScan_iff` — the runs in which associations follow from their scan.
-/

namespace SensorCollector

open EventMachine FifteenDotFourDevice

/-! ## Matches -/

/-- The step makes the device adopt a beacon. -/
def AdoptsBeacon (t : AppTransition) : Prop :=
  ∃ pData, adopted t.pre t.event = some pData

/-- A step that is not a call of `setPanIdMatch` sets the match if a beacon is adopted, and does not
take it back. -/
theorem panIdMatch_of_step {d d' : FifteenDotFourDevice} {step : AppStep} {calls : List MacCall}
    (hs : appMachine.step d step = some (d', calls)) (hne : ∀ m, step ≠ .setPanIdMatch m) :
    d'.panIdMatch = true ↔ d.panIdMatch = true ∨ ∃ pData, adopted d step = some pData := by
  have hwritten : matchWritten d step = (adopted d step).map fun _ => true := by
    cases step with
    | setPanIdMatch m => exact absurd rfl (hne m)
    | _ => rfl
  rw [(members_of_step hs).2.2.2, hwritten]
  cases adopted d step <;> simp

/-- **The match remembers every beacon that was adopted.** -/
theorem panIdMatch_iff_of_exec {d₀ d : FifteenDotFourDevice} (h0 : d₀.panIdMatch = false)
    {steps : List AppStep} {tr : List AppTransition} (hset : ∀ m, AppStep.setPanIdMatch m ∉ steps)
    (h : appMachine.exec d₀ steps = some (tr, d)) :
    d.panIdMatch = true ↔ ∃ t ∈ tr, AdoptsBeacon t := by
  refine appMachine.exec_induction
    (P := fun steps tr d => (∀ m, AppStep.setPanIdMatch m ∉ steps) →
      (d.panIdMatch = true ↔ ∃ t ∈ tr, AdoptsBeacon t)) (by simp [h0]) ?_ h hset
  intro steps tr d step d' calls _ ih hs hset
  have hne : ∀ m, step ≠ .setPanIdMatch m := by
    rintro m rfl
    exact hset m (by simp)
  have hbefore := ih fun m hm => hset m (by simp [hm])
  rw [panIdMatch_of_step hs hne, hbefore]
  simp only [List.mem_append, List.mem_singleton, or_and_right, exists_or, exists_eq_left]
  rfl

/-! ## What associate requests are addressed to -/

/-- The associate request is addressed to the network and the coordinator that sent the beacon. -/
def Addresses (req : ApiMacMlmeAssociateReq) (pData : ApiMacMlmeBeaconNotifyInd) : Prop :=
  req.coordPanId = pData.panDesc.coordPanId ∧ req.logicalChannel = pData.panDesc.logicalChannel ∧
    req.coordAddress.shortAddr = pData.panDesc.coordAddress.shortAddr

/-- A beacon that a device can join was received in the history. -/
def BeaconReceived (tr : List AppTransition) (pData : ApiMacMlmeBeaconNotifyInd) : Prop :=
  Eligible pData ∧ ∃ t ∈ tr, t.event = .device (.beaconNotifyInd pData)

/-- Every associate request is addressed to a beacon received before it. -/
def TargetsBeacon (tr : List AppTransition) : Prop :=
  ∀ tr₁ t tr₂, tr = tr₁ ++ t :: tr₂ → ∀ req, .mlmeAssociateReq req ∈ t.out →
    ∃ pData, BeaconReceived tr₁ pData ∧ Addresses req pData

/-- The setters are called only while the device has met no matching beacon. -/
def SettersBeforeMatch (tr : List AppTransition) : Prop :=
  ∀ t ∈ tr, t.event.isSetter = true → t.pre.getPanIdMatch = false

/-- The setters are called only before `connect`, and `setPanIdMatch` is not called. -/
def SettersBeforeConnect (steps : List AppStep) : Prop :=
  (∀ m, AppStep.setPanIdMatch m ∉ steps) ∧
    steps.Pairwise fun step step' => step = .device .connect → step'.isSetter = false

/-- What was received still was after more steps. -/
theorem BeaconReceived.append {tr : List AppTransition} {pData : ApiMacMlmeBeaconNotifyInd}
    (h : BeaconReceived tr pData) (tr' : List AppTransition) :
    BeaconReceived (tr ++ tr') pData := by
  obtain ⟨helig, t, ht, hevent⟩ := h
  exact ⟨helig, t, List.mem_append_left tr' ht, hevent⟩

/-- What a run that calls the setters only before a match has come to. -/
structure MatchInv (tr : List AppTransition) (d : FifteenDotFourDevice) : Prop where
  /-- After a match, the members are those of one beacon. -/
  target : d.panIdMatch = true → ∃ pData, BeaconReceived tr pData ∧ Addresses d.assocReq pData
  /-- An association is scheduled only after a match. -/
  scheduled : d.Pending .accociate → d.panIdMatch = true

/-- A step keeps the invariant, if it does not change the members after a match.

**Proof sketch.** A beacon that is adopted replaces all the members by its own. No other step than a
setter writes them. -/
theorem MatchInv.step {tr : List AppTransition} {d d' : FifteenDotFourDevice} {step : AppStep}
    {calls : List MacCall} (h : MatchInv tr d) (hs : appMachine.step d step = some (d', calls))
    (hne : ∀ m, step ≠ .setPanIdMatch m)
    (hset : step.isSetter = true → d.panIdMatch = false) :
    MatchInv (tr ++ [⟨d, step, calls, d'⟩]) d' := by
  have hmatch := panIdMatch_of_step hs hne
  obtain ⟨hpan, hchannel, haddr, -⟩ := members_of_step hs
  constructor
  · intro htrue
    cases hadopted : adopted d step with
    | some pData =>
      obtain ⟨rfl, hadopts⟩ := adopted_eq_some_iff.mp hadopted
      have hsetter : (AppStep.device (.beaconNotifyInd pData)).isSetter = false := rfl
      obtain ⟨hpanw, hchannelw, haddrw⟩ := written_of_not_setter d hsetter
      rw [hpanw, hadopted] at hpan
      rw [hchannelw, hadopted] at hchannel
      rw [haddrw, hadopted] at haddr
      have hlast : (⟨d, .device (.beaconNotifyInd pData), calls, d'⟩ : AppTransition) ∈
          tr ++ [⟨d, .device (.beaconNotifyInd pData), calls, d'⟩] := by simp
      exact ⟨pData, ⟨hadopts.1, _, hlast, rfl⟩, hpan, hchannel, haddr⟩
    | none =>
      have hbefore : d.panIdMatch = true := by simpa [hadopted] using hmatch.mp htrue
      have hsetter : step.isSetter = false := by
        by_contra hsetter
        rw [hset (by simpa using hsetter)] at hbefore
        exact absurd hbefore (by decide)
      obtain ⟨hpanw, hchannelw, haddrw⟩ := written_of_not_setter d hsetter
      rw [hpanw, hadopted] at hpan
      rw [hchannelw, hadopted] at hchannel
      rw [haddrw, hadopted] at haddr
      obtain ⟨pData, hreceived, haddresses⟩ := h.target hbefore
      refine ⟨pData, hreceived.append _, ?_⟩
      have hreq : d'.assocReq = d.assocReq := by
        simp only [assocReq, getPanID, getChannel, getCoordShortAddr, hpan, hchannel, haddr,
          Option.map_none, Option.getD_none]
      rw [hreq]
      exact haddresses
  · intro hpend
    rcases pending_accociate_of_step hs hpend with hbefore | hsched
    · exact hmatch.mpr (Or.inl (h.scheduled hbefore))
    · exact hmatch.mpr (Or.inl (schedulesAssociation_iff.mp hsched).2)

/-- **Runs keep the invariant.** -/
theorem matchInv_of_exec {d₀ d : FifteenDotFourDevice} (h0 : d₀.panIdMatch = false)
    (hpend : ¬ d₀.Pending .accociate) {steps : List AppStep} {tr : List AppTransition}
    (hne : ∀ m, AppStep.setPanIdMatch m ∉ steps)
    (h : appMachine.exec d₀ steps = some (tr, d)) (hset : SettersBeforeMatch tr) :
    MatchInv tr d := by
  refine appMachine.exec_induction
    (P := fun steps tr d => (∀ m, AppStep.setPanIdMatch m ∉ steps) → SettersBeforeMatch tr →
      MatchInv tr d) ?_ ?_ h hne hset
  · intro _ _
    refine ⟨fun htrue => ?_, fun hpend' => absurd hpend' hpend⟩
    rw [h0] at htrue
    cases htrue
  · intro steps tr d step d' calls _ ih hs hne hset
    have hinv : MatchInv tr d :=
      ih (fun m hm => hne m (by simp [hm])) fun t ht => hset t (by simp [ht])
    apply hinv.step hs
    · rintro m rfl
      exact hne m (by simp)
    · exact hset ⟨d, step, calls, d'⟩ (by simp)

/-- **An associate request is addressed to one beacon.** In a run of a device without a match and
with no association scheduled at the start, whose application calls the setters only while there is
no match and does not call `setPanIdMatch`, every associate request carries the PAN, the channel and
the short address of one and the same beacon, received before it, that a device can join. -/
theorem targetsBeacon_of_exec {d₀ d : FifteenDotFourDevice} (h0 : d₀.panIdMatch = false)
    (hpend : ¬ d₀.Pending .accociate) {steps : List AppStep} {tr : List AppTransition}
    (hne : ∀ m, AppStep.setPanIdMatch m ∉ steps)
    (h : appMachine.exec d₀ steps = some (tr, d)) (hset : SettersBeforeMatch tr) :
    TargetsBeacon tr := by
  rintro tr₁ t tr₂ rfl req hreq
  obtain ⟨hx, hs⟩ := appMachine.exec_split h
  have hinv : MatchInv tr₁ t.pre := by
    apply matchInv_of_exec h0 hpend ?_ hx
    · exact fun u hu => hset u (by simp [hu])
    · exact fun m hm => hne m (appMachine.mem_of_mem_history h hm)
  obtain ⟨⟨-, hscheduled⟩, rfl⟩ := ((requests_of_step hs).2.1 req).mp hreq
  exact hinv.target (hinv.scheduled hscheduled)

/-- A device that joins the network of the application's choice. -/
theorem targetsBeacon_of_exec_join :
    ∃ tr d, appMachine.exec (sampleDevice.begin false)
        [.setPanID 0xFAFA, .device .connect, .device .process,
          .device (.beaconNotifyInd sampleBeacon), .device (.scanCnf .success),
          .device .process] = some (tr, d) ∧ SettersBeforeMatch tr ∧ TargetsBeacon tr := by
  obtain ⟨tr, d, hx, hset⟩ : ∃ tr d, appMachine.exec (sampleDevice.begin false)
      [.setPanID 0xFAFA, .device .connect, .device .process,
        .device (.beaconNotifyInd sampleBeacon), .device (.scanCnf .success),
        .device .process] = some (tr, d) ∧ SettersBeforeMatch tr := by
    refine ⟨_, _, rfl, ?_⟩
    simp [SettersBeforeMatch, AppStep.isSetter]
    rfl
  exact ⟨tr, d, hx, hset, targetsBeacon_of_exec rfl (by decide) (by simp) hx hset⟩

/-- A device that scans as soon as it begins has met a beacon when its application calls `setPanID`
and only then `connect`: its associate request is addressed to a PAN of which it has not received a
beacon. -/
theorem not_targetsBeacon_setPanID :
    ∃ tr d, appMachine.exec ((sampleDevice.setPanID 0xFFFF).begin true)
        ([.device .process, .device (.beaconNotifyInd sampleBeacon), .setPanID 0x1234,
          .device .connect, .device (.scanCnf .success)] ++ [.device .process]) = some (tr, d) ∧
      SettersBeforeConnect
        ([.device .process, .device (.beaconNotifyInd sampleBeacon), .setPanID 0x1234,
          .device .connect, .device (.scanCnf .success)] ++ [.device .process]) ∧
      ¬ TargetsBeacon tr := by
  obtain ⟨tr, d, hx, hpan, hpend⟩ :
      ∃ tr d, appMachine.exec ((sampleDevice.setPanID 0xFFFF).begin true)
        [.device .process, .device (.beaconNotifyInd sampleBeacon), .setPanID 0x1234,
          .device .connect, .device (.scanCnf .success)] = some (tr, d) ∧
        d.panID = 0x1234 ∧ d.Pending .accociate :=
    ⟨_, _, rfl, rfl, by decide⟩
  have hs : appMachine.step d (.device .process) = some d.process := rfl
  refine ⟨_, _, (appMachine.exec_snoc_eq_some).mpr ⟨tr, d, _, hx, hs, rfl⟩,
    ⟨by simp, by decide⟩, fun htargets => ?_⟩
  have hreq := ((requests_of_step hs).2.1 d.assocReq).mpr ⟨⟨Or.inr rfl, hpend⟩, rfl⟩
  obtain ⟨pData, ⟨-, t, ht, hevent⟩, hcoord, -⟩ := htargets tr _ [] rfl _ hreq
  -- the one beacon that was received names another PAN
  have hmem : t.event ∈ tr.map Transition.event := List.mem_map_of_mem ht
  rw [appMachine.map_event_of_exec hx, hevent] at hmem
  obtain rfl : pData = sampleBeacon := by simpa using hmem
  have hcoord' : d.panID = 0xFAFA := hcoord
  rw [hpan] at hcoord'
  exact absurd hcoord' (by decide)

/-! ## The scan an association follows from -/

/-- The step makes a scan request. -/
def IsScanRequest (t : AppTransition) : Prop := ∃ req, .mlmeScanReq req ∈ t.out

/-- Each time a scan confirm schedules an association, a matching beacon has been received since the
scan request that it answers: the confirm at position `k` of the history answers the request at
position `ans k`. -/
def AssociatesFromScan (ans : ℕ → ℕ) (tr : List AppTransition) : Prop :=
  ∀ tr₁ r mid t tr₂, tr = tr₁ ++ r :: (mid ++ t :: tr₂) → IsScanRequest r →
    ans (tr₁ ++ r :: mid).length = tr₁.length → SchedulesAssociation t.pre t.event →
    ∃ u ∈ mid, AdoptsBeacon u

/-- A scan that is confirmed as a success, though no matching beacon was received between its
request and the confirm, comes before the first matching beacon of all. -/
def EmptyScansBeforeMatch (ans : ℕ → ℕ) (tr : List AppTransition) : Prop :=
  ∀ tr₁ r mid t tr₂, tr = tr₁ ++ r :: (mid ++ t :: tr₂) → IsScanRequest r →
    ans (tr₁ ++ r :: mid).length = tr₁.length → t.event = .device (.scanCnf .success) →
    (∀ u ∈ mid, ¬ AdoptsBeacon u) → ∀ u ∈ tr₁, ¬ AdoptsBeacon u

/-- A step that makes a scan request does not adopt a beacon. -/
theorem not_adoptsBeacon_of_isScanRequest {t : AppTransition}
    (hs : appMachine.step t.pre t.event = some (t.post, t.out)) (h : IsScanRequest t) :
    ¬ AdoptsBeacon t := by
  rintro ⟨pData, hadopted⟩
  obtain ⟨hbeacon, -⟩ := adopted_eq_some_iff.mp hadopted
  obtain ⟨req, hreq⟩ := h
  obtain ⟨⟨hbranch | hprocess, -⟩, -⟩ := ((requests_of_step hs).1 req).mp hreq
  · rw [hbeacon] at hbranch
    cases hbranch
  · rw [hbeacon] at hprocess
    cases hprocess

/-- In a run, there is a match when a scan is confirmed if a matching beacon has been received
before its request or since. -/
theorem panIdMatch_iff_of_split {d₀ d : FifteenDotFourDevice} (h0 : d₀.panIdMatch = false)
    {steps : List AppStep} (hne : ∀ m, AppStep.setPanIdMatch m ∉ steps)
    {tr₁ mid tr₂ : List AppTransition} {r t : AppTransition}
    (h : appMachine.exec d₀ steps = some (tr₁ ++ r :: (mid ++ t :: tr₂), d))
    (hreq : IsScanRequest r) :
    t.pre.panIdMatch = true ↔ (∃ u ∈ tr₁, AdoptsBeacon u) ∨ ∃ u ∈ mid, AdoptsBeacon u := by
  have hr : ¬ AdoptsBeacon r :=
    not_adoptsBeacon_of_isScanRequest (appMachine.exec_split h).2 hreq
  have hassoc : tr₁ ++ r :: (mid ++ t :: tr₂) = (tr₁ ++ r :: mid) ++ t :: tr₂ := by simp
  rw [hassoc] at h
  rw [panIdMatch_iff_of_exec h0 ?_ (appMachine.exec_split h).1]
  · simp only [List.mem_append, List.mem_cons, or_and_right, exists_or, exists_eq_left, hr,
      false_or]
  · exact fun m hm => hne m (appMachine.mem_of_mem_history h hm)

/-- **An association follows from its scan exactly if no scan succeeds on an earlier match.** In a
run of a device without a match at the start, whose application does not call `setPanIdMatch`, every
association that is scheduled follows a matching beacon received since the scan request that is
being confirmed, if and only if every scan that reports success without a matching beacon comes
before the first match. -/
theorem associatesFromScan_iff {d₀ d : FifteenDotFourDevice} (h0 : d₀.panIdMatch = false)
    {steps : List AppStep} {tr : List AppTransition}
    (hne : ∀ m, AppStep.setPanIdMatch m ∉ steps)
    (h : appMachine.exec d₀ steps = some (tr, d)) (ans : ℕ → ℕ) :
    AssociatesFromScan ans tr ↔ EmptyScansBeforeMatch ans tr := by
  constructor
  · rintro hassoc tr₁ r mid t tr₂ rfl hreq hans hcnf hempty u hu hadopts
    have hmatch := (panIdMatch_iff_of_split h0 hne h hreq).mpr (Or.inl ⟨u, hu, hadopts⟩)
    obtain ⟨v, hv, hadopts'⟩ :=
      hassoc tr₁ r mid t tr₂ rfl hreq hans (schedulesAssociation_iff.mpr ⟨hcnf, hmatch⟩)
    exact hempty v hv hadopts'
  · rintro hscans tr₁ r mid t tr₂ rfl hreq hans hsched
    obtain ⟨hcnf, hmatch⟩ := schedulesAssociation_iff.mp hsched
    rcases (panIdMatch_iff_of_split h0 hne h hreq).mp hmatch with ⟨u, hu, hadopts⟩ | hsince
    · by_contra hnone
      have hempty : ∀ v ∈ mid, ¬ AdoptsBeacon v := fun v hv hadopts' => hnone ⟨v, hv, hadopts'⟩
      exact hscans tr₁ r mid t tr₂ rfl hreq hans hcnf hempty u hu hadopts
    · exact hsince

/-- A device that joins after its first scan. -/
theorem associatesFromScan_iff_first_scan :
    ∃ tr d, appMachine.exec ((sampleDevice.setPanID 0xFFFF).begin true)
        [.device .process, .device (.beaconNotifyInd sampleBeacon), .device (.scanCnf .success)] =
        some (tr, d) ∧
      (AssociatesFromScan (fun _ => 0) tr ↔ EmptyScansBeforeMatch (fun _ => 0) tr) := by
  obtain ⟨tr, d, hx⟩ : ∃ tr d, appMachine.exec ((sampleDevice.setPanID 0xFFFF).begin true)
      [.device .process, .device (.beaconNotifyInd sampleBeacon), .device (.scanCnf .success)] =
      some (tr, d) := ⟨_, _, rfl⟩
  exact ⟨tr, d, hx, associatesFromScan_iff rfl (by simp) hx fun _ => 0⟩

/-- A device that has joined is told to connect again. The second scan meets no beacon and reports
success, and the device associates with what it has found in the first. -/
theorem not_associatesFromScan_second_scan :
    ∃ tr d, appMachine.exec ((sampleDevice.setPanID 0xFFFF).begin false)
        [.device .connect, .device .process, .device (.beaconNotifyInd sampleBeacon),
          .device (.scanCnf .success), .device .process, .device (.associateCnf .success),
          .device .connect, .device .process, .device (.scanCnf .success)] = some (tr, d) ∧
      ¬ AssociatesFromScan (fun k => if k = 3 then 1 else 7) tr := by
  refine ⟨_, _, rfl, fun hassoc => ?_⟩
  obtain ⟨u, hu, -⟩ :=
    hassoc [_, _, _, _, _, _, _] _ [] _ [] rfl ⟨scanReq, by decide⟩ rfl
      ⟨.success, rfl, by decide⟩
  cases hu

end SensorCollector
