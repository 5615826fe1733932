import SensorCollector.Collector.Responses

set_option relaxedAutoImplicit false
set_option autoImplicit false

/-!
# Current members

Whether the capacity of the table counts the devices that are members now: a device that asks to
join while there are fewer members than slots should get one.

The disassociate callback does nothing, so the slot of a device that leaves stays taken. The
capacity counts current members exactly as long as no new device asks for the slot of one that has
left.

## Main definitions

* `SensorCollector.Admitted` — a device is in the table and alive.
* `SensorCollector.current` — the devices that were admitted and have not left since.
* `SensorCollector.AdmitsNewMember` — a step admits a device while there are fewer current members
  than slots.
* `SensorCollector.NoneLeftWhenFull` — the condition on the indications of a run.

## Main results

* `SensorCollector.admitsNewMember_iff` — when a step does so.
* `SensorCollector.mem_current_iff` — the current members, from the indications of a run.
* `SensorCollector.countsCurrentMembers_iff` — when all steps of a run do so.
-/

namespace SensorCollector

open EventMachine

/-- The device is in the table, and alive. -/
def Admitted (c : FifteenDotFourCollector) (addr : ApiMacSAddrExt) : Prop :=
  ∃ e ∈ c.associationTable.slots, ¬ e.Free ∧ e.extAddress = addr ∧ e.status = assocStatusAlive

instance (c : FifteenDotFourCollector) (addr : ApiMacSAddrExt) : Decidable (Admitted c addr) :=
  inferInstanceAs (Decidable (∃ e ∈ _, _))

/-- The current members after one more step: a device that asks and is in the table afterwards is
one, and a device that leaves is none. -/
def currentStep (cur : Finset ApiMacSAddrExt) (t : MembershipStep) : Finset ApiMacSAddrExt :=
  match t.event with
  | .assoc pData _ _ =>
    if Admitted t.post pData.deviceAddress then insert pData.deviceAddress cur else cur
  | .disassoc pData => cur.erase pData.deviceAddress

/-- The current members after a history. -/
def current (tr : List MembershipStep) : Finset ApiMacSAddrExt := tr.foldl currentStep ∅

/-- If the step is on an associate indication of a device that is not in `cur`, and `cur` has fewer
devices than there are slots, the device is admitted and no entry of a device in `cur` changes. -/
def AdmitsNewMember (cur : Finset ApiMacSAddrExt) (t : MembershipStep) : Prop :=
  ∀ pData, t.event.assocData = some pData → pData.deviceAddress ∉ cur →
    cur.card < configMaxDevices →
    Admitted t.post pData.deviceAddress ∧
      ∀ (i : ℕ) (e : AssociationDevice), t.pre.associationTable.slots[i]? = some e → ¬ e.Free →
        e.extAddress ∈ cur → t.post.associationTable.slots[i]? = some e

/-- Every step of a history admits new members while there are fewer current members than slots. -/
def CountsCurrentMembers (tr : List MembershipStep) : Prop :=
  ∀ tr₁ t tr₂, tr = tr₁ ++ t :: tr₂ → AdmitsNewMember (current tr₁) t

/-- The device that an indication is about. -/
def MembershipInd.deviceAddress : MembershipInd → ApiMacSAddrExt
  | .assoc pData _ _ => pData.deviceAddress
  | .disassoc pData => pData.deviceAddress

/-- The first `configMaxDevices` different devices that ask to join. -/
def firstDevices (inds : List MembershipInd) : List ApiMacSAddrExt :=
  (((assocInds inds).firstArrivals (·.deviceAddress)).take configMaxDevices).map (·.deviceAddress)

/-- The device has left: the last indication about it is that it leaves. -/
def HasLeft (inds : List MembershipInd) (addr : ApiMacSAddrExt) : Prop :=
  ∃ pData, (inds.filter fun ind => ind.deviceAddress = addr).getLast? = some (.disassoc pData)

/-- Whenever `configMaxDevices` different devices have asked and one that is not among them asks,
none of them has left. -/
def NoneLeftWhenFull (inds : List MembershipInd) : Prop :=
  ∀ inds₁ ind inds₂ pData, inds = inds₁ ++ ind :: inds₂ → ind.assocData = some pData →
    (firstDevices inds₁).length = configMaxDevices → pData.deviceAddress ∉ firstDevices inds₁ →
    ∀ addr ∈ firstDevices inds₁, ¬ HasLeft inds₁ addr

/-- Whether the device of the last indication has left. -/
theorem hasLeft_concat_self (inds : List MembershipInd) (ind : MembershipInd) :
    HasLeft (inds ++ [ind]) ind.deviceAddress ↔ ind.assocData = none := by
  rw [HasLeft, List.filter_append, List.filter_singleton, decide_eq_true rfl, cond_true,
    List.getLast?_concat]
  cases ind with
  | assoc pData device status => simp [MembershipInd.assocData]
  | disassoc pData => simp [MembershipInd.assocData]

/-- An indication does not decide whether another device has left. -/
theorem hasLeft_concat_of_ne (inds : List MembershipInd) {ind : MembershipInd}
    {addr : ApiMacSAddrExt} (h : addr ≠ ind.deviceAddress) :
    HasLeft (inds ++ [ind]) addr ↔ HasLeft inds addr := by
  rw [HasLeft, List.filter_append, List.filter_singleton, decide_eq_false (Ne.symm h), cond_false,
    List.append_nil]
  rfl

/-- The current members after a history with one more step. -/
theorem current_concat (tr : List MembershipStep) (t : MembershipStep) :
    current (tr ++ [t]) = currentStep (current tr) t := by
  rw [current, List.foldl_append]
  rfl

/-- A step decides whether its device is a current member, and no other. -/
theorem mem_currentStep_of_ne (cur : Finset ApiMacSAddrExt) {t : MembershipStep}
    {addr : ApiMacSAddrExt} (h : addr ≠ t.event.deviceAddress) :
    addr ∈ currentStep cur t ↔ addr ∈ cur := by
  obtain ⟨c, ind, calls, c'⟩ := t
  cases ind with
  | assoc pData device status =>
    rw [currentStep]
    dsimp only
    split_ifs
    · exact Finset.mem_insert.trans (or_iff_right h)
    · rfl
  | disassoc pData => exact Finset.mem_erase.trans (and_iff_right h)

/-- In a table that is a record, the devices admitted are the members. -/
theorem RecordOf.admitted_iff {members : List ApiMacMlmeAssociateInd}
    {c : FifteenDotFourCollector} (h : RecordOf members c) {addr : ApiMacSAddrExt} :
    Admitted c addr ↔ addr ∈ members.map (·.deviceAddress) := by
  constructor
  · rintro ⟨e, he, hfree, rfl, -⟩
    obtain ⟨i, hslot⟩ := List.mem_iff_getElem?.mp he
    obtain ⟨ind, hi, hentry⟩ := h.exists_of_slot hslot hfree
    rw [hentry.extAddress]
    exact List.mem_map_of_mem (List.mem_of_getElem? hi)
  · intro hmem
    obtain ⟨ind, hind, rfl⟩ := List.mem_map.mp hmem
    obtain ⟨i, hi⟩ := List.mem_iff_getElem?.mp hind
    obtain ⟨e, he, hentry⟩ := h.entry i ind hi
    exact ⟨e, List.mem_of_getElem? he, hentry.not_free (h.lt_max hi).le, hentry.extAddress,
      hentry.status⟩

/-- **When a step admits a new member.** From a table that records `members`, a step admits every
device that is not in `cur` while `cur` has fewer devices than there are slots, if and only if such
a device finds a slot: there are fewer members than slots, or it is a member already.

**Proof sketch.** A member is confirmed and nothing changes; a new device with a slot left takes a
free slot, so no entry is overwritten; without a slot left nothing changes, and the device is not
in the table. -/
theorem admitsNewMember_iff {members : List ApiMacMlmeAssociateInd} {t : MembershipStep}
    (hrec : RecordOf members t.pre)
    (hs : membershipMachine.step t.pre t.event = some (t.post, t.out))
    (cur : Finset ApiMacSAddrExt) :
    AdmitsNewMember cur t ↔ ∀ pData, t.event.assocData = some pData →
      pData.deviceAddress ∉ cur → cur.card < configMaxDevices →
      members.length < configMaxDevices ∨
        pData.deviceAddress ∈ members.map (·.deviceAddress) := by
  refine forall_congr' fun pData => forall_congr' fun ht => forall_congr' fun _ =>
    forall_congr' fun _ => ?_
  rcases membership_step_cases hrec hs ht with
    ⟨i, ind, e, hi, haddr, -, -, hpost, -⟩ | ⟨hnew, hroom, e, hentry, hpost, -⟩ |
    ⟨hnew, hfull, e, -, hpost, -⟩
  · have hmem : pData.deviceAddress ∈ members.map (·.deviceAddress) := by
      rw [← haddr]
      exact List.mem_map_of_mem (List.mem_of_getElem? hi)
    rw [hpost]
    exact iff_of_true ⟨hrec.admitted_iff.mpr hmem, fun _ _ he _ _ => he⟩ (Or.inr hmem)
  · refine iff_of_true ⟨?_, fun j e' he' hfree _ => ?_⟩ (Or.inl hroom)
    · refine ⟨e, ?_, hentry.not_free hroom.le, hentry.extAddress, hentry.status⟩
      rw [hpost]
      exact List.mem_set (by rw [t.pre.associationTable.length_slots]; exact hroom) e
    · have hj : j ≠ members.length := by
        rintro rfl
        exact hfree (hrec.free _ e' le_rfl he')
      rw [hpost, List.getElem?_set_ne hj.symm, he']
  · rw [hpost]
    refine iff_of_false (fun h => hnew (hrec.admitted_iff.mp h.1)) ?_
    rintro (hroom | hmem)
    · omega
    · exact hnew hmem

section Runs

variable {rxBlock txBlock : Option (ℕ × List UInt8)} {raw : FifteenDotFour} {panID : UInt16}

/-- **The current members, from the indications of a run**: those of the first devices that have not
left.

**Proof sketch.** A device that asks is admitted if and only if it is among the first devices, and
stays so. -/
theorem mem_current_iff {inds : List MembershipInd} {tr : List MembershipStep}
    {c : FifteenDotFourCollector}
    (h : membershipMachine.exec (.construct rxBlock txBlock raw panID) inds = some (tr, c)) :
    ∀ addr, addr ∈ current tr ↔
      addr ∈ (joined tr).map (·.deviceAddress) ∧ ¬ HasLeft inds addr := by
  refine membershipMachine.exec_induction
    (P := fun inds tr _ => ∀ addr, addr ∈ current tr ↔
      addr ∈ (joined tr).map (·.deviceAddress) ∧ ¬ HasLeft inds addr)
    (by simp [current, joined, arrivals, indications, assocInds]) ?_ h
  intro inds tr c ind c' calls hx ih hs addr
  rw [current_concat]
  cases ind with
  | disassoc pData =>
    have hjoined : joined (tr ++ [⟨c, .disassoc pData, calls, c'⟩]) = joined tr := by
      rw [joined, arrivals_concat_of_none tr rfl]
      rfl
    rw [hjoined]
    by_cases haddr : addr = pData.deviceAddress
    · subst haddr
      have hleft : HasLeft (inds ++ [.disassoc pData]) pData.deviceAddress :=
        (hasLeft_concat_self inds (.disassoc pData)).mpr rfl
      exact iff_of_false (Finset.notMem_erase _ _) fun h => h.2 hleft
    · rw [mem_currentStep_of_ne (current tr) haddr, hasLeft_concat_of_ne inds haddr, ih]
  | assoc pData device status =>
    have hx' := (membershipMachine.exec_snoc_eq_some).mpr ⟨tr, c, calls, hx, hs, rfl⟩
    have hadm : Admitted c' pData.deviceAddress ↔ _ := (recordOf_of_exec hx').admitted_iff
    by_cases haddr : addr = pData.deviceAddress
    · subst haddr
      have hasks : ¬ HasLeft (inds ++ [.assoc pData device status]) pData.deviceAddress := fun h =>
        Option.some_ne_none _ ((hasLeft_concat_self inds (.assoc pData device status)).mp h)
      rw [and_iff_left hasks, ← hadm, currentStep]
      dsimp only
      split_ifs with h
      · exact iff_of_true (Finset.mem_insert_self _ _) h
      · refine iff_of_false (fun hcur => h (hadm.mpr ?_)) h
        exact ((joined_mono tr _).map _).subset ((ih _).mp hcur).1
    · rw [mem_currentStep_of_ne (current tr) haddr, joined_concat_of_assoc tr rfl,
        mem_map_enroll_of_ne haddr, hasLeft_concat_of_ne inds haddr, ih]

/-- When the slots are used up, there are fewer current members than slots if and only if one of
the first devices has left. -/
theorem card_current_lt_iff {inds : List MembershipInd} {tr : List MembershipStep}
    {c : FifteenDotFourCollector}
    (h : membershipMachine.exec (.construct rxBlock txBlock raw panID) inds = some (tr, c))
    (hfull : (joined tr).length = configMaxDevices) :
    (current tr).card < configMaxDevices ↔
      ∃ addr ∈ (joined tr).map (·.deviceAddress), HasLeft inds addr := by
  set members := ((joined tr).map (·.deviceAddress)).toFinset with hmembers
  have hcard : members.card = configMaxDevices := by
    rw [hmembers, List.toFinset_card_of_nodup (recordOf_of_exec h).nodup, List.length_map, hfull]
  have hsub : current tr ⊆ members := fun addr haddr =>
    List.mem_toFinset.mpr ((mem_current_iff h addr).mp haddr).1
  rw [← hcard]
  constructor
  · intro hlt
    obtain ⟨addr, hmem, hnot⟩ := Finset.exists_mem_notMem_of_card_lt_card hlt
    rw [mem_current_iff h, not_and, not_not] at hnot
    exact ⟨addr, List.mem_toFinset.mp hmem, hnot (List.mem_toFinset.mp hmem)⟩
  · rintro ⟨addr, hmem, hleft⟩
    refine Finset.card_lt_card (Finset.ssubset_iff_subset_ne.mpr ⟨hsub, ?_⟩)
    intro heq
    have hcur : addr ∈ current tr := heq ▸ List.mem_toFinset.mpr hmem
    exact ((mem_current_iff h addr).mp hcur).2 hleft

/-- Along a run, new members are admitted exactly when none of the first devices has left whenever
another one asks. -/
theorem countsCurrentMembers_iff_of_exec {inds : List MembershipInd} {tr : List MembershipStep}
    {c : FifteenDotFourCollector}
    (h : membershipMachine.exec (.construct rxBlock txBlock raw panID) inds = some (tr, c)) :
    CountsCurrentMembers tr ↔ NoneLeftWhenFull inds := by
  have hevents := membershipMachine.map_event_of_exec h
  constructor
  · rintro hcounts inds₁ ind inds₂ pData heq ht hfull hnew addr haddr hleft
    obtain ⟨tr₁, tr', rfl, rfl, htr'⟩ := List.map_eq_append_iff.mp (hevents.trans heq)
    obtain ⟨t, tr₂, rfl, rfl, rfl⟩ := List.map_eq_cons_iff.mp htr'
    obtain ⟨hx, hs⟩ := membershipMachine.exec_split h
    have hlen : (joined tr₁).length = configMaxDevices := by
      rw [← hfull]
      exact (List.length_map _).symm
    have hlt := (card_current_lt_iff hx hlen).mpr ⟨addr, haddr, hleft⟩
    have hcur : pData.deviceAddress ∉ current tr₁ := fun hmem =>
      hnew ((mem_current_iff hx _).mp hmem).1
    rcases (admitsNewMember_iff (recordOf_pre h) hs _).mp (hcounts tr₁ t tr₂ rfl) pData ht hcur hlt
      with hroom | hmem
    · omega
    · exact hnew hmem
  · rintro hnone tr₁ t tr₂ rfl
    obtain ⟨hx, hs⟩ := membershipMachine.exec_split h
    rw [admitsNewMember_iff (recordOf_pre h) hs]
    intro pData ht _ hlt
    by_contra hno
    obtain ⟨hroom, hnew⟩ := not_or.mp hno
    have hlen : (joined tr₁).length = configMaxDevices :=
      le_antisymm (recordOf_pre h).length_le (not_lt.mp hroom)
    obtain ⟨addr, haddr, hleft⟩ := (card_current_lt_iff hx hlen).mp hlt
    have hfirst : (firstDevices (tr₁.map Transition.event)).length = configMaxDevices :=
      (List.length_map _).trans hlen
    refine hnone _ t.event (tr₂.map Transition.event) pData ?_ ht hfirst hnew addr haddr hleft
    rw [← hevents, List.map_append, List.map_cons]

end Runs

/-- **The capacity counts current members exactly while none of the first devices has left.** In a
run from a new collector, every device that asks while there are fewer current members than slots is
admitted, if and only if none of the first `configMaxDevices` devices has left whenever so many have
asked and another one asks. -/
theorem countsCurrentMembers_iff (rxBlock txBlock : Option (ℕ × List UInt8)) (raw : FifteenDotFour)
    (panID : UInt16) (inds : List MembershipInd) :
    membershipMachine.Holds (fun tr _ => CountsCurrentMembers tr)
        (.construct rxBlock txBlock raw panID) inds ↔ NoneLeftWhenFull inds := by
  obtain ⟨tr, c, hx⟩ := membershipMachine.exec_of_total membershipMachine_total
    (.construct rxBlock txBlock raw panID) inds
  rw [← countsCurrentMembers_iff_of_exec hx]
  constructor
  · rintro ⟨tr', c', hx', hcounts⟩
    obtain ⟨rfl, rfl⟩ := Prod.mk.inj (Option.some.inj (hx.symm.trans hx'))
    exact hcounts
  · exact fun hcounts => ⟨tr, c, hx, hcounts⟩

/-- After 50 devices have joined, one of them leaves and another device asks to join; it is not
admitted although there are 49 current members. -/
theorem not_countsCurrentMembers_fifty_one :
    ∃ tr c, membershipMachine.exec
        (.construct (some (0, List.replicate (mtu * 2) 0)) (some (0, List.replicate mtu 0))
          ⟨⟨0, [], 0, 0, 0⟩, ⟨0, [], 0, 0, 0⟩, false⟩ 0xFAFA)
        (((List.range 50).map fun i => sampleInd (UInt8.ofNat i)) ++
          [.disassoc ⟨#v[7, 0, 0, 0, 0, 0, 0, 0]⟩] ++ [sampleInd 50]) = some (tr, c) ∧
      ¬ CountsCurrentMembers tr := by
  set joins := (List.range 50).map fun i => sampleInd (UInt8.ofNat i)
  set gone : ApiMacMlmeDisassociateInd := ⟨#v[7, 0, 0, 0, 0, 0, 0, 0]⟩
  obtain ⟨tr, c, hx⟩ := membershipMachine.exec_of_total membershipMachine_total
    (.construct (some (0, List.replicate (mtu * 2) 0)) (some (0, List.replicate mtu 0))
      ⟨⟨0, [], 0, 0, 0⟩, ⟨0, [], 0, 0, 0⟩, false⟩ 0xFAFA)
    (joins ++ [.disassoc gone] ++ [sampleInd 50])
  refine ⟨tr, c, hx, fun hcounts => ?_⟩
  have hassoc : assocInds (joins ++ [.disassoc gone]) = assocInds joins := by
    rw [assocInds, List.filterMap_append]
    exact List.append_nil _
  have hlen : ((assocInds joins).firstArrivals (·.deviceAddress)).length =
      configMaxDevices := by
    rw [List.length_firstArrivals, List.toFinset_card_of_nodup (nodup_sampleInds (by decide))]
    rfl
  have hfirst : firstDevices (joins ++ [.disassoc gone]) =
      ((assocInds joins).firstArrivals (·.deviceAddress)).map (·.deviceAddress) := by
    rw [firstDevices, hassoc, List.take_of_length_le hlen.le]
  have hleft : HasLeft (joins ++ [.disassoc gone]) gone.deviceAddress :=
    (hasLeft_concat_self joins (.disassoc gone)).mpr rfl
  refine (countsCurrentMembers_iff_of_exec hx).mp hcounts (joins ++ [.disassoc gone])
    (sampleInd 50) [] _ rfl rfl ?_ ?_ _ ?_ hleft
  · rw [hfirst, List.length_map, hlen]
  · rw [hfirst, List.mem_map_firstArrivals]
    decide +kernel
  · rw [hfirst, List.mem_map_firstArrivals]
    decide +kernel

end SensorCollector
