import SensorCollector.Collector.Defs

set_option relaxedAutoImplicit false
set_option autoImplicit false

/-!
# The association table

What the association table holds when it is the record of a list of joined devices, and what the
search, the insertion and the associate indication callback do with such a table. The list is the
abstract view of the table: the device that joined as number `i` has slot `i` and the short address
of that slot.

## Main definitions

* `SensorCollector.slotAddress` — the short address that belongs to a slot.
* `SensorCollector.RecordOf` — the table of the collector is the record of a list of joiners.
* `SensorCollector.enroll` — the list of joiners after one more indication.

## Main results

* `SensorCollector.RecordOf.findDevice_of_joined`, `SensorCollector.RecordOf.addDevice_of_room`,
  `SensorCollector.RecordOf.addDevice_of_full` — the search and the insertion.
* `SensorCollector.RecordOf.assocIndCb` — the callback takes the record of a list to the record of
  the list after the indication.
-/

namespace SensorCollector

/-! ## Short addresses -/

/-- The short address of the device in slot `i`. -/
def slotAddress (i : ℕ) : UInt16 := UInt16.ofNat (i + assocDeviceStartingShortAddr.toNat)

/-- The short addresses count the slots. -/
theorem toNat_slotAddress {i : ℕ} (h : i ≤ configMaxDevices) : (slotAddress i).toNat = i + 1 := by
  have hi : i + assocDeviceStartingShortAddr.toNat < UInt16.size := by
    have : assocDeviceStartingShortAddr.toNat = 1 := rfl
    simp only [configMaxDevices] at h
    simp only [UInt16.size]
    omega
  rw [slotAddress, UInt16.toNat_ofNat_of_lt' hi]
  rfl

/-- Different slots have different short addresses. -/
theorem slotAddress_injOn {i j : ℕ} (hi : i ≤ configMaxDevices) (hj : j ≤ configMaxDevices)
    (h : slotAddress i = slotAddress j) : i = j := by
  have hnat := congrArg UInt16.toNat h
  rw [toNat_slotAddress hi, toNat_slotAddress hj] at hnat
  omega

/-- The short address of a slot is a valid one. -/
theorem slotAddress_ne_invalid {i : ℕ} (h : i ≤ configMaxDevices) :
    slotAddress i ≠ csfInvalidShortAddr := by
  intro heq
  have hnat := congrArg UInt16.toNat heq
  rw [toNat_slotAddress h] at hnat
  have hinv : csfInvalidShortAddr.toNat = 65535 := rfl
  simp only [configMaxDevices] at h
  omega

/-! ## Tables that record a list of joiners -/

/-- The entry `e` is that of a device that joined with the indication `ind` and got slot `i`. -/
structure EntryFor (i : ℕ) (ind : ApiMacMlmeAssociateInd) (e : AssociationDevice) : Prop where
  extAddress : e.extAddress = ind.deviceAddress
  shortAddress : e.shortAddress = slotAddress i
  capInfo : e.capInfo = ind.capabilityInformation
  status : e.status = assocStatusAlive

/-- The table of the collector is the record of the devices that joined with the indications
`joined`, in this order: they have the first slots, and the other slots are free. -/
structure RecordOf (joined : List ApiMacMlmeAssociateInd) (c : FifteenDotFourCollector) :
    Prop where
  length_le : joined.length ≤ configMaxDevices
  nodup : (joined.map (·.deviceAddress)).Nodup
  entry : ∀ i ind, joined[i]? = some ind →
    ∃ e, c.associationTable.slots[i]? = some e ∧ EntryFor i ind e
  free : ∀ i e, joined.length ≤ i → c.associationTable.slots[i]? = some e → e.Free
  num : c.numAssocDevices.toNat = joined.length

/-- The list of joiners after one more indication: a new device joins if there is a slot. -/
def enroll (joined : List ApiMacMlmeAssociateInd) (ind : ApiMacMlmeAssociateInd) :
    List ApiMacMlmeAssociateInd :=
  if ind.deviceAddress ∈ joined.map (·.deviceAddress) ∨ configMaxDevices ≤ joined.length then joined
  else joined ++ [ind]

/-- An indication decides whether its device is a joiner, and no other. -/
theorem mem_map_enroll_of_ne {joined : List ApiMacMlmeAssociateInd} {ind : ApiMacMlmeAssociateInd}
    {addr : ApiMacSAddrExt} (h : addr ≠ ind.deviceAddress) :
    addr ∈ (enroll joined ind).map (·.deviceAddress) ↔ addr ∈ joined.map (·.deviceAddress) := by
  rw [enroll]
  split_ifs
  · rfl
  · rw [List.map_append, List.mem_append, List.map_singleton, List.mem_singleton, or_iff_left h]

/-- The response to the device of an entry. -/
def successRsp (e : AssociationDevice) : ApiMacMlmeAssociateRsp where
  sec := .zero
  deviceAddress := e.extAddress
  assocShortAddress := e.shortAddress
  status := .success

/-- The entry in a slot is in use. -/
theorem EntryFor.not_free {i : ℕ} {ind : ApiMacMlmeAssociateInd} {e : AssociationDevice}
    (h : EntryFor i ind e) (hi : i ≤ configMaxDevices) : ¬ e.Free := by
  rw [AssociationDevice.Free, h.shortAddress]
  exact slotAddress_ne_invalid hi

/-! ## The callback by cases -/

namespace FifteenDotFourCollector

variable (c : FifteenDotFourCollector) (device : AssociationDevice) (status : ApiMacAssocStatus)
  {pData : ApiMacMlmeAssociateInd}

/-- The response to a device that is found. -/
theorem assocIndCb_of_found {e : AssociationDevice}
    (hfind : c.findDevice device pData.deviceAddress = (true, e)) :
    c.assocIndCb device status pData = (c, successRsp e) := by
  simp [assocIndCb, hfind, successRsp]

/-- The response to a device that is added. -/
theorem assocIndCb_of_added {e device' : AssociationDevice} {c' : FifteenDotFourCollector}
    (hfind : c.findDevice device pData.deviceAddress = (false, device'))
    (hadd : c.addDevice device' pData = (true, e, c')) :
    c.assocIndCb device status pData =
      ({ c' with numAssocDevices := c'.numAssocDevices + 1 }, successRsp e) := by
  simp [assocIndCb, hfind, hadd, successRsp]

/-- The response to a device that is neither found nor added has the same status. -/
theorem assocIndCb_of_refused {e device' : AssociationDevice} {c' : FifteenDotFourCollector}
    (hfind : c.findDevice device pData.deviceAddress = (false, device'))
    (hadd : c.addDevice device' pData = (false, e, c')) :
    c.assocIndCb device status pData = (c', successRsp e) := by
  simp [assocIndCb, hfind, hadd, successRsp]

/-! ## What a step leaves as it is -/

/-- Adding a device concerns the table. -/
theorem addDevice_frame (pData : ApiMacMlmeAssociateInd) :
    ∃ table, (c.addDevice device pData).2.2 = { c with associationTable := table } := by
  unfold addDevice
  dsimp only
  split
  · exact ⟨_, rfl⟩
  · split
    · exact ⟨_, rfl⟩
    · exact ⟨c.associationTable, rfl⟩

/-- The associate callback concerns the table and the number of devices. -/
theorem assocIndCb_frame (pData : ApiMacMlmeAssociateInd) :
    ∃ table numAssocDevices, (c.assocIndCb device status pData).1 =
      { c with associationTable := table, numAssocDevices := numAssocDevices } := by
  rcases hfind : c.findDevice device pData.deviceAddress with ⟨found, device'⟩
  cases found with
  | true => exact ⟨_, _, congrArg Prod.fst (c.assocIndCb_of_found device status hfind)⟩
  | false =>
    obtain ⟨table, htable⟩ := c.addDevice_frame device' pData
    rcases hadd : c.addDevice device' pData with ⟨added, e, c'⟩
    obtain rfl : c' = { c with associationTable := table } := by rw [← htable, hadd]
    cases added with
    | true => exact ⟨_, _, congrArg Prod.fst (c.assocIndCb_of_added device status hfind hadd)⟩
    | false =>
      exact ⟨_, _, congrArg Prod.fst (c.assocIndCb_of_refused device status hfind hadd)⟩

/-- A step leaves the PAN as it is, and a step other than a data indication the buffers too. -/
theorem base_of_step {c c' : FifteenDotFourCollector} {step : CollectorStep}
    {calls : List MacCall} (hs : collectorMachine.step c step = some (c', calls)) :
    c'.panID = c.panID ∧ (c'.toFifteenDotFour = c.toFifteenDotFour ∨
      ∃ pDataInd, c.dataIndCB pDataInd = some c') := by
  cases step with
  | start =>
    obtain ⟨rfl, -⟩ := Prod.mk.inj (Option.some.inj hs)
    exact ⟨rfl, Or.inl rfl⟩
  | process =>
    obtain rfl : c.process.1 = c' := congrArg Prod.fst (Option.some.inj hs)
    unfold process processOpen processStart
    dsimp only
    split_ifs <;> exact ⟨rfl, Or.inl rfl⟩
  | startCnf status =>
    obtain ⟨rfl, -⟩ := Prod.mk.inj (Option.some.inj hs)
    exact ⟨rfl, Or.inl rfl⟩
  | assocInd pData device status =>
    obtain ⟨rfl, -⟩ := Prod.mk.inj (Option.some.inj hs)
    obtain ⟨table, numAssocDevices, h⟩ := c.assocIndCb_frame device status pData
    rw [h]
    exact ⟨rfl, Or.inl rfl⟩
  | disassocInd pData =>
    obtain ⟨rfl, -⟩ := Prod.mk.inj (Option.some.inj hs)
    exact ⟨rfl, Or.inl rfl⟩
  | dataInd pDataInd =>
    simp only [collectorMachine, Option.map_eq_some_iff] at hs
    obtain ⟨c', hind, heq⟩ := hs
    obtain ⟨rfl, -⟩ := Prod.mk.inj heq
    refine ⟨?_, Or.inr ⟨pDataInd, hind⟩⟩
    rw [dataIndCB, Option.map_eq_some_iff] at hind
    obtain ⟨node, -, rfl⟩ := hind
    rfl

end FifteenDotFourCollector

/-! ## The search and the insertion -/

namespace RecordOf

variable {joined : List ApiMacMlmeAssociateInd} {c : FifteenDotFourCollector}

/-- A joiner has a number below the number of slots. -/
theorem lt_max (h : RecordOf joined c) {i : ℕ} {ind : ApiMacMlmeAssociateInd}
    (hi : joined[i]? = some ind) : i < configMaxDevices :=
  lt_of_lt_of_le (List.getElem?_eq_some_iff.mp hi).1 h.length_le

/-- Joiners with the same extended address are the same joiner. -/
theorem index_unique (h : RecordOf joined c) {i j : ℕ} {ind ind' : ApiMacMlmeAssociateInd}
    (hi : joined[i]? = some ind) (hj : joined[j]? = some ind')
    (haddr : ind.deviceAddress = ind'.deviceAddress) : i = j := by
  have hi' : (joined.map (·.deviceAddress))[i]? = some ind.deviceAddress := by simp [hi]
  have hj' : (joined.map (·.deviceAddress))[j]? = some ind.deviceAddress := by simp [hj, haddr]
  have hlt := (List.getElem?_eq_some_iff.mp hi').1
  exact (List.getElem?_inj hlt h.nodup).mp (hi'.trans hj'.symm)

/-- A slot in use is that of a joiner. -/
theorem exists_of_slot (h : RecordOf joined c) {i : ℕ} {e : AssociationDevice}
    (hi : c.associationTable.slots[i]? = some e) (hfree : ¬ e.Free) :
    ∃ ind, joined[i]? = some ind ∧ EntryFor i ind e := by
  by_cases hlen : i < joined.length
  · have hind : joined[i]? = some joined[i] := List.getElem?_eq_getElem hlen
    obtain ⟨e', he', hentry⟩ := h.entry i _ hind
    obtain rfl : e' = e := by
      rw [he', Option.some.injEq] at hi
      exact hi
    exact ⟨_, hind, hentry⟩
  · exact absurd (h.free i e (by omega) hi) hfree

/-- A slot in use with a joiner's extended address is that joiner's slot. -/
theorem slot_eq_of_extAddress (h : RecordOf joined c) {i : ℕ} {ind : ApiMacMlmeAssociateInd}
    (hi : joined[i]? = some ind) {e : AssociationDevice} (he : e ∈ c.associationTable.slots)
    (hfree : ¬ e.Free) (hext : ind.deviceAddress = e.extAddress) :
    c.associationTable.slots[i]? = some e := by
  obtain ⟨j, hslot⟩ := List.mem_iff_getElem?.mp he
  obtain ⟨ind', hj, hentry⟩ := h.exists_of_slot hslot hfree
  rw [h.index_unique hi hj (hext.trans hentry.extAddress), hslot]

/-- When every slot is taken, every slot is in use by a joiner that is alive. -/
theorem exists_of_full (h : RecordOf joined c) (hfull : configMaxDevices ≤ joined.length)
    {e : AssociationDevice} (he : e ∈ c.associationTable.slots) :
    ∃ i ind, joined[i]? = some ind ∧ EntryFor i ind e := by
  obtain ⟨i, hi⟩ := List.mem_iff_getElem?.mp he
  have hlt := SlotTable.lt_of_slot hi
  have hind : joined[i]? = some _ := List.getElem?_eq_getElem (by omega)
  obtain ⟨e', he', hentry⟩ := h.entry i _ hind
  obtain rfl : e' = e := by
    rw [he', Option.some.injEq] at hi
    exact hi
  exact ⟨i, _, hind, hentry⟩

/-- A joiner is found, in its slot. -/
theorem findDevice_of_joined (h : RecordOf joined c) (device : AssociationDevice) {i : ℕ}
    {ind : ApiMacMlmeAssociateInd} (hi : joined[i]? = some ind) :
    ∃ e, c.associationTable.slots[i]? = some e ∧ EntryFor i ind e ∧
      c.findDevice device ind.deviceAddress = (true, e) := by
  obtain ⟨e, he, hentry⟩ := h.entry i ind hi
  refine ⟨e, he, hentry, ?_⟩
  have hfind : c.associationTable.find? (fun entry =>
      decide (¬ entry.Free) && decide (ind.deviceAddress = entry.extAddress)) = some e := by
    refine SlotTable.find?_eq_some_of_unique (List.mem_of_getElem? he) ?_ ?_
    · simp [hentry.not_free (h.lt_max hi).le, hentry.extAddress]
    · intro e' he' hp
      simp only [Bool.and_eq_true, decide_eq_true_eq] at hp
      have := h.slot_eq_of_extAddress hi he' hp.1 hp.2
      rw [he, Option.some.injEq] at this
      exact this.symm
  rw [FifteenDotFourCollector.findDevice, hfind]

/-- A device that has not joined is not found. -/
theorem findDevice_of_not_joined (h : RecordOf joined c) (device : AssociationDevice)
    {addr : ApiMacSAddrExt} (haddr : addr ∉ joined.map (·.deviceAddress)) :
    c.findDevice device addr = (false, device) := by
  have hfind : c.associationTable.find? (fun entry =>
      decide (¬ entry.Free) && decide (addr = entry.extAddress)) = none := by
    refine SlotTable.find?_eq_none_iff.mpr fun e he => ?_
    by_contra hp
    simp only [Bool.not_eq_false, Bool.and_eq_true, decide_eq_true_eq] at hp
    obtain ⟨i, hslot⟩ := List.mem_iff_getElem?.mp he
    obtain ⟨ind, hi, hentry⟩ := h.exists_of_slot hslot hp.1
    apply haddr
    rw [hp.2, hentry.extAddress]
    exact List.mem_map_of_mem (List.mem_of_getElem? hi)
  rw [FifteenDotFourCollector.findDevice, hfind]

/-- The entry that would be made of an indication has the short address of the next slot. -/
theorem entryFor_newEntry (h : RecordOf joined c) (device : AssociationDevice)
    (pData : ApiMacMlmeAssociateInd) :
    EntryFor joined.length pData (c.newEntry device pData) where
  extAddress := rfl
  shortAddress := by
    have hle := h.length_le
    apply UInt16.toNat_inj.mp
    rw [toNat_slotAddress hle]
    have hnum := h.num
    simp only [configMaxDevices] at hle
    have hstart : assocDeviceStartingShortAddr.toNat = 1 := rfl
    simp only [FifteenDotFourCollector.newEntry, FifteenDotFourCollector.createShortAddress,
      UInt16.toNat_add, UInt8.toNat_toUInt16, hnum, hstart]
    omega
  capInfo := rfl
  status := rfl

/-- With a slot left, a new entry goes into the first one that is free, behind the joiners. -/
theorem addDevice_of_room (h : RecordOf joined c) (device : AssociationDevice)
    (pData : ApiMacMlmeAssociateInd) (hroom : joined.length < configMaxDevices) :
    ∃ table, c.addDevice device pData =
        (true, c.newEntry device pData, { c with associationTable := table }) ∧
      table.slots = c.associationTable.slots.set joined.length (c.newEntry device pData) := by
  obtain ⟨e, he⟩ := c.associationTable.exists_slot hroom
  have hslots : (c.associationTable.slots.set joined.length (c.newEntry device pData)).length =
      configMaxDevices := by
    rw [List.length_set, c.associationTable.length_slots]
  have hplace : c.associationTable.place? (fun entry => decide entry.Free)
      (c.newEntry device pData) = some ⟨_, hslots⟩ := by
    refine SlotTable.place?_eq_some_iff.mpr ⟨joined.length, e, he, ?_, fun j hj b hb => ?_, rfl⟩
    · simpa using h.free joined.length e le_rfl he
    · obtain ⟨e', he', hentry⟩ := h.entry j _ (List.getElem?_eq_getElem hj)
      obtain rfl : e' = b := by
        rw [he', Option.some.injEq] at hb
        exact hb
      simpa using hentry.not_free (by omega)
  refine ⟨⟨_, hslots⟩, ?_, rfl⟩
  simp only [FifteenDotFourCollector.addDevice, hplace]

/-- Without a slot left, no entry is added: every slot is in use by a device that is alive. -/
theorem addDevice_of_full (h : RecordOf joined c) (device : AssociationDevice)
    (pData : ApiMacMlmeAssociateInd) (hfull : configMaxDevices ≤ joined.length) :
    c.addDevice device pData = (false, c.newEntry device pData, c) := by
  have hused : ∀ e ∈ c.associationTable.slots, ¬ e.Free ∧ e.status = assocStatusAlive := by
    intro e he
    obtain ⟨i, ind, hi, hentry⟩ := h.exists_of_full hfull he
    exact ⟨hentry.not_free (h.lt_max hi).le, hentry.status⟩
  have hfree : c.associationTable.place? (fun entry => decide entry.Free)
      (c.newEntry device pData) = none :=
    SlotTable.place?_eq_none_iff.mpr fun e he => by simpa using (hused e he).1
  have hdead : c.associationTable.place? (fun entry => decide (entry.status = assocStatusDead))
      (c.newEntry device pData) = none :=
    SlotTable.place?_eq_none_iff.mpr fun e he => by
      rw [(hused e he).2]
      decide
  simp only [FifteenDotFourCollector.addDevice, hfree, hdead]

/-! ## The callback -/

/-- With the entry of a new device in the next slot, and the device counted, the table records that
device behind the joiners. -/
theorem set_new (h : RecordOf joined c) (device : AssociationDevice)
    (pData : ApiMacMlmeAssociateInd) (hnew : pData.deviceAddress ∉ joined.map (·.deviceAddress))
    (hroom : joined.length < configMaxDevices) {table : AssociationTable}
    (htable : table.slots =
      c.associationTable.slots.set joined.length (c.newEntry device pData)) :
    RecordOf (joined ++ [pData])
      { c with associationTable := table, numAssocDevices := c.numAssocDevices + 1 } where
  length_le := by
    rw [List.length_append, List.length_singleton]
    omega
  nodup := by
    rw [List.map_append, List.map_singleton, ← List.concat_eq_append]
    exact h.nodup.concat hnew
  entry := by
    intro i ind hi
    rcases Nat.lt_trichotomy i joined.length with hlt | rfl | hgt
    · rw [List.getElem?_append_left hlt] at hi
      obtain ⟨e, he, hentry⟩ := h.entry i ind hi
      refine ⟨e, ?_, hentry⟩
      rw [htable, List.getElem?_set_ne (by omega), he]
    · obtain rfl : pData = ind := by simpa using hi
      refine ⟨c.newEntry device pData, ?_, h.entryFor_newEntry device pData⟩
      rw [htable, List.getElem?_set_self (by rw [c.associationTable.length_slots]; exact hroom)]
    · rw [List.getElem?_eq_none (by rw [List.length_append, List.length_singleton]; omega)] at hi
      exact absurd hi (by simp)
  free := by
    intro i e hlen hi
    rw [List.length_append, List.length_singleton] at hlen
    rw [htable, List.getElem?_set_ne (by omega)] at hi
    exact h.free i e (by omega) hi
  num := by
    have hnum := h.num
    simp only [configMaxDevices] at hroom
    rw [UInt8.toNat_add, hnum, List.length_append, List.length_singleton]
    have hone : (1 : UInt8).toNat = 1 := rfl
    rw [hone]
    omega

/-- The response to a joiner confirms its slot, and nothing else happens. -/
theorem assocIndCb_of_joined (h : RecordOf joined c) (device : AssociationDevice)
    (status : ApiMacAssocStatus) {i : ℕ} {pData ind : ApiMacMlmeAssociateInd}
    (hi : joined[i]? = some ind) (haddr : ind.deviceAddress = pData.deviceAddress) :
    ∃ e, c.associationTable.slots[i]? = some e ∧ EntryFor i ind e ∧
      c.assocIndCb device status pData = (c, successRsp e) := by
  obtain ⟨e, he, hentry, hfind⟩ := h.findDevice_of_joined device hi
  exact ⟨e, he, hentry, c.assocIndCb_of_found device status (haddr ▸ hfind)⟩

/-- With a slot left, a new device gets it, and the response says so. -/
theorem assocIndCb_of_room (h : RecordOf joined c) (device : AssociationDevice)
    (status : ApiMacAssocStatus) {pData : ApiMacMlmeAssociateInd}
    (hnew : pData.deviceAddress ∉ joined.map (·.deviceAddress))
    (hroom : joined.length < configMaxDevices) :
    ∃ e table, EntryFor joined.length pData e ∧
      table.slots = c.associationTable.slots.set joined.length e ∧
      c.assocIndCb device status pData =
        ({ c with associationTable := table, numAssocDevices := c.numAssocDevices + 1 },
          successRsp e) ∧
      RecordOf (joined ++ [pData]) (c.assocIndCb device status pData).1 := by
  obtain ⟨table, hadd, htable⟩ := h.addDevice_of_room device pData hroom
  have hcb := c.assocIndCb_of_added device status (h.findDevice_of_not_joined device hnew) hadd
  refine ⟨_, table, h.entryFor_newEntry device pData, htable, hcb, ?_⟩
  rw [hcb]
  exact h.set_new device pData hnew hroom htable

/-- Without a slot left, a new device changes nothing; the response reports success with the short
address of a slot that does not exist. -/
theorem assocIndCb_of_full (h : RecordOf joined c) (device : AssociationDevice)
    (status : ApiMacAssocStatus) {pData : ApiMacMlmeAssociateInd}
    (hnew : pData.deviceAddress ∉ joined.map (·.deviceAddress))
    (hfull : configMaxDevices ≤ joined.length) :
    ∃ e, EntryFor joined.length pData e ∧
      c.assocIndCb device status pData = (c, successRsp e) := by
  refine ⟨_, h.entryFor_newEntry device pData, ?_⟩
  exact c.assocIndCb_of_refused device status (h.findDevice_of_not_joined device hnew)
    (h.addDevice_of_full device pData hfull)

/-- **The callback keeps the record**: afterwards the table is the record of the joiners after the
indication. -/
theorem assocIndCb (h : RecordOf joined c) (device : AssociationDevice)
    (status : ApiMacAssocStatus) (pData : ApiMacMlmeAssociateInd) :
    RecordOf (enroll joined pData) (c.assocIndCb device status pData).1 := by
  unfold enroll
  by_cases hmem : pData.deviceAddress ∈ joined.map (·.deviceAddress)
  · obtain ⟨ind, hind, haddr⟩ := List.mem_map.mp hmem
    obtain ⟨i, hi⟩ := List.mem_iff_getElem?.mp hind
    obtain ⟨e, -, -, hcb⟩ := h.assocIndCb_of_joined device status hi haddr
    rw [if_pos (Or.inl hmem), hcb]
    exact h
  · by_cases hfull : configMaxDevices ≤ joined.length
    · obtain ⟨e, -, hcb⟩ := h.assocIndCb_of_full device status hmem hfull
      rw [if_pos (Or.inr hfull), hcb]
      exact h
    · obtain ⟨e, table, -, -, -, hrec⟩ := h.assocIndCb_of_room device status hmem (by omega)
      rw [if_neg (not_or.mpr ⟨hmem, hfull⟩)]
      exact hrec

end RecordOf

/-- A new collector is the record of no joiners. -/
theorem recordOf_construct (rxBlock txBlock : Option (ℕ × List UInt8)) (raw : FifteenDotFour)
    (panID : UInt16) :
    RecordOf [] (FifteenDotFourCollector.construct rxBlock txBlock raw panID) where
  length_le := Nat.zero_le _
  nodup := List.nodup_nil
  entry := by simp
  free := by
    intro i e _ he
    have hmem := List.mem_of_getElem? he
    rw [List.eq_of_mem_replicate hmem]
    rfl
  num := rfl

end SensorCollector
