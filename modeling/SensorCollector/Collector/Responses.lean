import SensorCollector.Collector.Membership

set_option relaxedAutoImplicit false
set_option autoImplicit false

/-!
# The responses to associate indications

Whether the responses of a run tell the truth: a device that is told it has joined is in the table
with the address it was told, no address is given to two devices, and a device for which there is
no slot is refused.

The associate callback sets the status of a refusal and then overwrites it. So the responses are
truthful exactly as long as there has been a slot for every device.

## Main definitions

* `SensorCollector.RefusesWhenFull` — a step refuses a new device when no slot can be taken.
* `SensorCollector.TruthfulResponses` — the responses of a run are truthful.

## Main results

* `SensorCollector.truthfulResponses_iff` — the responses of a run are truthful if and only if no
  more devices have asked to join than there are slots.
-/

namespace SensorCollector

open EventMachine

/-- If the step is on an associate indication of a device that is not in the table, and no slot is
free or holds a dead device, then the device is refused and the table stays as it is. -/
def RefusesWhenFull (t : MembershipStep) : Prop :=
  ∀ pData, t.event.assocData = some pData →
    (∀ e ∈ t.pre.associationTable.slots,
      ¬ e.Free ∧ e.status ≠ assocStatusDead ∧ e.extAddress ≠ pData.deviceAddress) →
    (∃ rsp, t.out = [.mlmeAssociateRsp rsp] ∧ rsp.status = .panAccessDenied) ∧
      t.post.associationTable = t.pre.associationTable ∧
      t.post.numAssocDevices = t.pre.numAssocDevices

/-- The responses of a history are truthful. -/
structure TruthfulResponses (tr : List MembershipStep) : Prop where
  /-- The addresses of a success response are in the table after the call. -/
  listed : ∀ t ∈ tr, ∀ rsp, MacCall.mlmeAssociateRsp rsp ∈ t.out → rsp.status = .success →
    ∃ e ∈ t.post.associationTable.slots, ¬ e.Free ∧ e.extAddress = rsp.deviceAddress ∧
      e.shortAddress = rsp.assocShortAddress
  /-- Success responses to different devices have different short addresses. -/
  unique : ∀ t ∈ tr, ∀ t' ∈ tr, ∀ rsp rsp', MacCall.mlmeAssociateRsp rsp ∈ t.out →
    MacCall.mlmeAssociateRsp rsp' ∈ t'.out → rsp.status = .success → rsp'.status = .success →
    rsp.deviceAddress ≠ rsp'.deviceAddress → rsp.assocShortAddress ≠ rsp'.assocShortAddress
  /-- New devices are refused when no slot can be taken. -/
  refused : ∀ t ∈ tr, RefusesWhenFull t

/-- A new device is not refused when every slot is taken: the response reports success. -/
theorem not_refusesWhenFull {members : List ApiMacMlmeAssociateInd} {t : MembershipStep}
    {pData : ApiMacMlmeAssociateInd} (hrec : RecordOf members t.pre)
    (ht : t.event.assocData = some pData)
    (hnew : pData.deviceAddress ∉ members.map (·.deviceAddress))
    (hfull : configMaxDevices ≤ members.length) {e : AssociationDevice}
    (hout : t.out = [.mlmeAssociateRsp (successRsp e)]) : ¬ RefusesWhenFull t := by
  intro h
  have hslots : ∀ e ∈ t.pre.associationTable.slots,
      ¬ e.Free ∧ e.status ≠ assocStatusDead ∧ e.extAddress ≠ pData.deviceAddress := by
    intro e he
    obtain ⟨i, ind, hi, hentry⟩ := hrec.exists_of_full hfull he
    refine ⟨hentry.not_free (hrec.lt_max hi).le, ?_, ?_⟩
    · rw [hentry.status]
      decide
    · rw [hentry.extAddress]
      intro haddr
      rw [← haddr] at hnew
      exact hnew (List.mem_map_of_mem (List.mem_of_getElem? hi))
  obtain ⟨⟨rsp, hrsp, hstatus⟩, -⟩ := h pData ht hslots
  obtain rfl : successRsp e = rsp := by simpa [hout] using hrsp
  have hne : ApiMacAssocStatus.success ≠ .panAccessDenied := by decide
  exact hne hstatus

section Runs

variable {rxBlock txBlock : Option (ℕ × List UInt8)} {raw : FifteenDotFour} {panID : UInt16}

/-- If new devices are refused whenever no slot can be taken, there has been a slot for every
device.

**Proof sketch.** Along the run, a device either has arrived before, or gets a slot; the third case
is the one that is excluded. -/
theorem length_arrivals_le_of_refused {inds : List MembershipInd} {tr : List MembershipStep}
    {c : FifteenDotFourCollector}
    (h : membershipMachine.exec (.construct rxBlock txBlock raw panID) inds = some (tr, c))
    (href : ∀ t ∈ tr, RefusesWhenFull t) : (arrivals tr).length ≤ configMaxDevices := by
  revert href
  refine membershipMachine.exec_induction
    (P := fun _ tr _ => (∀ t ∈ tr, RefusesWhenFull t) → (arrivals tr).length ≤ configMaxDevices)
    (fun _ => Nat.zero_le _) ?_ h
  intro inds tr c ind c' calls hx ih hs href
  have hle := ih fun t ht => href t (List.mem_append_left _ ht)
  have hall : joined tr = arrivals tr := List.take_of_length_le hle
  have hrec := recordOf_of_exec hx
  cases ht : ind.assocData with
  | none =>
    rw [arrivals_concat_of_none tr ht]
    exact hle
  | some pData =>
    rw [arrivals_concat_of_assoc tr ht]
    rcases membership_step_cases (t := ⟨c, ind, calls, c'⟩) hrec hs ht with
      ⟨i, ind', e, hi, haddr, -⟩ | ⟨hnew, hroom, -⟩ | ⟨hnew, hfull, e, -, -, hout⟩
    · have hmem : pData.deviceAddress ∈ (arrivals tr).map (·.deviceAddress) := by
        rw [← hall, ← haddr]
        exact List.mem_map_of_mem (List.mem_of_getElem? hi)
      rw [if_pos hmem]
      exact hle
    · rw [hall] at hnew hroom
      rw [if_neg hnew, List.length_append, List.length_singleton]
      exact hroom
    · exact absurd (href _ (List.mem_append_right _ (List.mem_singleton_self _)))
        (not_refusesWhenFull hrec ht hnew hfull hout)

/-- While there is a slot for every device, a device is answered with the addresses of its entry. -/
theorem answer_of_few {inds : List MembershipInd} {tr₁ tr₂ : List MembershipStep}
    {t : MembershipStep} {c : FifteenDotFourCollector}
    (h : membershipMachine.exec (.construct rxBlock txBlock raw panID) inds =
      some (tr₁ ++ t :: tr₂, c))
    (hfew : (arrivals (tr₁ ++ t :: tr₂)).length ≤ configMaxDevices)
    {rsp : ApiMacMlmeAssociateRsp} (hrsp : MacCall.mlmeAssociateRsp rsp ∈ t.out) :
    ∃ i ind, (joined (tr₁ ++ t :: tr₂))[i]? = some ind ∧ rsp.deviceAddress = ind.deviceAddress ∧
      rsp.assocShortAddress = slotAddress i ∧
      ∃ e ∈ t.post.associationTable.slots, EntryFor i ind e := by
  cases ht : t.event.assocData with
  | none =>
    rw [(membership_step_of_none (membershipMachine.exec_split h).2 ht).2] at hrsp
    exact absurd hrsp (List.not_mem_nil)
  | some pData =>
    have hpre := arrivals_mono (tr₁ ++ [t]) tr₂
    rw [List.append_assoc, List.singleton_append] at hpre
    have hall : joined (tr₁ ++ [t]) = arrivals (tr₁ ++ [t]) :=
      List.take_of_length_le (hpre.length_le.trans hfew)
    have hmem : pData.deviceAddress ∈ (joined (tr₁ ++ [t])).map (·.deviceAddress) := by
      rw [hall, arrivals, List.mem_map_firstArrivals, indications_concat, ht]
      simp
    obtain ⟨ind, hind, haddr⟩ := List.mem_map.mp hmem
    obtain ⟨i, hi⟩ := List.mem_iff_getElem?.mp hind
    have hi' := getElem?_joined_append tr₂ hi
    rw [List.append_assoc, List.singleton_append] at hi'
    obtain ⟨e, hentry, hout⟩ := answer_of_joined h ht hi' haddr
    obtain rfl : rsp = successRsp e := by simpa [hout] using hrsp
    obtain ⟨e', he', hentry'⟩ := (recordOf_post h).entry i ind hi
    exact ⟨i, ind, hi', hentry.extAddress, hentry.shortAddress, e', List.mem_of_getElem? he',
      hentry'⟩

/-- While there is a slot for every device, the responses are truthful. -/
theorem truthfulResponses_of_few {inds : List MembershipInd} {tr : List MembershipStep}
    {c : FifteenDotFourCollector}
    (h : membershipMachine.exec (.construct rxBlock txBlock raw panID) inds = some (tr, c))
    (hfew : (arrivals tr).length ≤ configMaxDevices) : TruthfulResponses tr where
  listed := by
    intro t ht rsp hrsp _
    obtain ⟨tr₁, tr₂, rfl⟩ := List.append_of_mem ht
    obtain ⟨i, ind, hi, hext, hshort, e, he, hentry⟩ := answer_of_few h hfew hrsp
    have hlt := (recordOf_of_exec h).lt_max hi
    exact ⟨e, he, hentry.not_free hlt.le, hentry.extAddress.trans hext.symm,
      hentry.shortAddress.trans hshort.symm⟩
  unique := by
    intro t ht t' ht' rsp rsp' hrsp hrsp' _ _ hne heq
    have key : ∀ u ∈ tr, ∀ r, MacCall.mlmeAssociateRsp r ∈ u.out → ∃ i ind,
        (joined tr)[i]? = some ind ∧ r.deviceAddress = ind.deviceAddress ∧
          r.assocShortAddress = slotAddress i := by
      intro u hu r hr
      obtain ⟨tr₁, tr₂, rfl⟩ := List.append_of_mem hu
      obtain ⟨i, ind, hi, hext, hshort, -⟩ := answer_of_few h hfew hr
      exact ⟨i, ind, hi, hext, hshort⟩
    obtain ⟨i, ind, hi, hext, hshort⟩ := key t ht rsp hrsp
    obtain ⟨j, ind', hj, hext', hshort'⟩ := key t' ht' rsp' hrsp'
    have hrec := recordOf_of_exec h
    rw [hshort, hshort'] at heq
    obtain rfl := slotAddress_injOn (hrec.lt_max hi).le (hrec.lt_max hj).le heq
    obtain rfl : ind = ind' := by
      rw [hj, Option.some.injEq] at hi
      exact hi.symm
    exact hne (hext.trans hext'.symm)
  refused := by
    intro t ht pData hdata hslots
    obtain ⟨tr₁, tr₂, rfl⟩ := List.append_of_mem ht
    have hs := (membershipMachine.exec_split h).2
    have hrec := recordOf_pre h
    rcases membership_step_cases hrec hs hdata with
      ⟨i, ind, e, -, haddr, he, hentry, -⟩ | ⟨-, hroom, -⟩ | ⟨hnew, hfull, -⟩
    · exact absurd (hentry.extAddress.trans haddr) (hslots e (List.mem_of_getElem? he)).2.2
    · obtain ⟨e, he⟩ := t.pre.associationTable.exists_slot hroom
      exact absurd (hrec.free _ e le_rfl he) (hslots e (List.mem_of_getElem? he)).1
    · -- a device without a slot would be one arrival too many
      have hpre := (arrivals_mono (tr₁ ++ [t]) tr₂).length_le
      rw [List.append_assoc, List.singleton_append, arrivals_concat_of_assoc tr₁ hdata] at hpre
      have hlen := length_joined tr₁
      have hall : joined tr₁ = arrivals tr₁ := by
        refine List.take_of_length_le ?_
        exact (arrivals_mono tr₁ (t :: tr₂)).length_le.trans hfew
      rw [hall] at hnew hfull
      rw [if_neg hnew, List.length_append, List.length_singleton] at hpre
      omega

end Runs

/-- The number of devices that have asked to join, by the events of a run. -/
theorem length_arrivals_of_exec {c₀ c : FifteenDotFourCollector} {inds : List MembershipInd}
    {tr : List MembershipStep} (h : membershipMachine.exec c₀ inds = some (tr, c)) :
    (arrivals tr).length = ((assocInds inds).map (·.deviceAddress)).toFinset.card := by
  rw [arrivals, List.length_firstArrivals, indications, membershipMachine.map_event_of_exec h]

/-- If the responses are truthful, there has been a slot for every device. -/
theorem card_le_of_truthfulResponses {rxBlock txBlock : Option (ℕ × List UInt8)}
    {raw : FifteenDotFour} {panID : UInt16} {inds : List MembershipInd}
    (h : membershipMachine.Holds (fun tr _ => TruthfulResponses tr)
      (.construct rxBlock txBlock raw panID) inds) :
    ((assocInds inds).map (·.deviceAddress)).toFinset.card ≤ configMaxDevices := by
  obtain ⟨tr, c, hx, htruth⟩ := h
  rw [← length_arrivals_of_exec hx]
  exact length_arrivals_le_of_refused hx htruth.refused

/-- **The responses are truthful exactly while there is a slot for every device.** The responses of
a run from a new collector are truthful if and only if at most `configMaxDevices` different devices
have asked to join. -/
theorem truthfulResponses_iff (rxBlock txBlock : Option (ℕ × List UInt8)) (raw : FifteenDotFour)
    (panID : UInt16) (inds : List MembershipInd) :
    membershipMachine.Holds (fun tr _ => TruthfulResponses tr)
        (.construct rxBlock txBlock raw panID) inds ↔
      ((assocInds inds).map (·.deviceAddress)).toFinset.card ≤ configMaxDevices := by
  constructor
  · exact card_le_of_truthfulResponses
  · intro hcard
    obtain ⟨tr, c, hx⟩ := membershipMachine.exec_of_total membershipMachine_total
      (.construct rxBlock txBlock raw panID) inds
    rw [← length_arrivals_of_exec hx] at hcard
    exact ⟨tr, c, hx, truthfulResponses_of_few hx hcard⟩

/-- An associate indication of the device with the extended address `i, 0, …, 0`. -/
def sampleInd (i : UInt8) : MembershipInd :=
  .assoc ⟨#v[i, 0, 0, 0, 0, 0, 0, 0], ⟨false, false, false, false, false, true⟩⟩
    AssociationDevice.zero .success

/-- The devices of up to 256 of these indications are different. -/
theorem nodup_sampleInds {n : ℕ} (hn : n ≤ 256) :
    ((assocInds ((List.range n).map fun i => sampleInd (UInt8.ofNat i))).map
      (·.deviceAddress)).Nodup := by
  have haddr : (assocInds ((List.range n).map fun i => sampleInd (UInt8.ofNat i))).map
      (·.deviceAddress) = (List.range n).map fun i => #v[UInt8.ofNat i, 0, 0, 0, 0, 0, 0, 0] := by
    rw [assocInds, List.filterMap_map, List.map_filterMap]
    exact congrFun List.filterMap_eq_map' _
  rw [haddr]
  refine List.Nodup.map_on (fun i hi j hj heq => ?_) List.nodup_range
  have hbyte : UInt8.ofNat i = UInt8.ofNat j := congrArg (fun v => v[0]) heq
  have hnat := congrArg UInt8.toNat hbyte
  rw [List.mem_range] at hi hj
  rw [UInt8.toNat_ofNat_of_lt' (lt_of_lt_of_le hi hn),
    UInt8.toNat_ofNat_of_lt' (lt_of_lt_of_le hj hn)] at hnat
  exact hnat

/-- One associate indication from each of 51 devices is too much for truthful responses. -/
theorem not_truthfulResponses_fifty_one :
    ∃ tr c, membershipMachine.exec
        (.construct (some (0, List.replicate (mtu * 2) 0)) (some (0, List.replicate mtu 0))
          ⟨⟨0, [], 0, 0, 0⟩, ⟨0, [], 0, 0, 0⟩, false⟩ 0xFAFA)
        ((List.range 51).map fun i => sampleInd (UInt8.ofNat i)) = some (tr, c) ∧
      ¬ TruthfulResponses tr := by
  obtain ⟨tr, c, hx⟩ := membershipMachine.exec_of_total membershipMachine_total
    (.construct (some (0, List.replicate (mtu * 2) 0)) (some (0, List.replicate mtu 0))
      ⟨⟨0, [], 0, 0, 0⟩, ⟨0, [], 0, 0, 0⟩, false⟩ 0xFAFA)
    ((List.range 51).map fun i => sampleInd (UInt8.ofNat i))
  refine ⟨tr, c, hx, fun htruth => ?_⟩
  have hcard : ((assocInds ((List.range 51).map fun i => sampleInd (UInt8.ofNat i))).map
      (·.deviceAddress)).toFinset.card = 51 := by
    rw [List.toFinset_card_of_nodup (nodup_sampleInds (by decide))]
    rfl
  have hle := card_le_of_truthfulResponses ⟨tr, c, hx, htruth⟩
  rw [hcard] at hle
  exact absurd hle (by decide)

end SensorCollector
