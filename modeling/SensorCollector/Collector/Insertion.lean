import SensorCollector.Collector.Table

set_option relaxedAutoImplicit false
set_option autoImplicit false

/-!
# The insertion as one into a finite map

The association table, with any mix of entries, as a finite map from the extended addresses of its
entries in use. The search looks an address up, and the insertion of a new address inserts it: into
a free slot, or else in the place of a device that is dead.

## Main definitions

* `SensorCollector.AssociationTable.AddressesDistinct` — no two entries in use have the same
  extended address.
* `SensorCollector.Inserted` — a collector after the insertion of a new entry.

## Main results

* `SensorCollector.addDevice_spec` — the insertion, on every table.
-/

namespace SensorCollector

/-- Different entries in use have different extended addresses. -/
def AssociationTable.AddressesDistinct (table : AssociationTable) : Prop :=
  table.KeysDistinct (fun entry => decide (¬ entry.Free)) AssociationDevice.extAddress

/-- The collector `c'` is `c` with `entry` inserted into its table, in a free slot or in that of the
device `evicted`. -/
structure Inserted (c : FifteenDotFourCollector) (entry : AssociationDevice)
    (evicted : Option AssociationDevice) (c' : FifteenDotFourCollector) : Prop where
  /-- The address of the new entry finds the new entry. -/
  find_new : ∀ out, c'.findDevice out entry.extAddress = (true, entry)
  /-- Another address finds what it found before, unless its device was evicted. -/
  find_old : ∀ addr, addr ≠ entry.extAddress → (∀ e ∈ evicted, addr ≠ e.extAddress) →
    ∀ out, c'.findDevice out addr = c.findDevice out addr
  /-- The address of the device that was evicted finds nothing. -/
  find_evicted : ∀ e ∈ evicted, ∀ out, c'.findDevice out e.extAddress = (false, out)
  /-- A device is evicted only if it is dead and there is no free slot. -/
  evicted_dead : ∀ e ∈ evicted, e ∈ c.associationTable.slots ∧ ¬ e.Free ∧
    e.status = assocStatusDead ∧ ∀ e' ∈ c.associationTable.slots, ¬ e'.Free
  /-- No entry of a device that is alive is overwritten. -/
  alive_kept : ∀ (i : ℕ) (e : AssociationDevice), c.associationTable.slots[i]? = some e → ¬ e.Free →
    e.status = assocStatusAlive → c'.associationTable.slots[i]? = some e
  /-- The extended addresses are still distinct. -/
  distinct : c'.associationTable.AddressesDistinct
  /-- Only the table changes. -/
  frame : c' = { c with associationTable := c'.associationTable }

namespace FifteenDotFourCollector

variable (c : FifteenDotFourCollector) (device : AssociationDevice) (pData : ApiMacMlmeAssociateInd)

/-- The search looks the address up among the entries in use. -/
theorem findDevice_eq (addr : ApiMacSAddrExt) :
    c.findDevice device addr =
      match c.associationTable.lookup (fun entry => decide (¬ entry.Free))
        AssociationDevice.extAddress addr with
      | some entry => (true, entry)
      | none => (false, device) := rfl

/-- An address that the search does not find is that of no entry in use. -/
theorem lookup_of_not_found {addr : ApiMacSAddrExt} (h : (c.findDevice device addr).1 = false) :
    c.associationTable.lookup (fun entry => decide (¬ entry.Free)) AssociationDevice.extAddress
      addr = none := by
  rw [findDevice_eq] at h
  split at h
  · cases h
  · assumption

/-- The entry that is made of an indication is in use, whatever the number of devices. -/
theorem not_free_newEntry : ¬ (c.newEntry device pData).Free := by
  intro hfree
  have hlt := c.numAssocDevices.toNat_lt
  have hnat := congrArg UInt16.toNat hfree
  have hstart : assocDeviceStartingShortAddr.toNat = 1 := rfl
  have hinvalid : csfInvalidShortAddr.toNat = 65535 := rfl
  simp only [newEntry, createShortAddress, UInt16.toNat_add, UInt8.toNat_toUInt16, hstart,
    hinvalid] at hnat
  omega

/-- Writing a new entry over one that is free, or over a dead one when there is no free slot,
inserts it. -/
theorem inserted_of_set (hdist : c.associationTable.AddressesDistinct)
    {entry : AssociationDevice} (hentry : ¬ entry.Free)
    (hnew : (c.findDevice device entry.extAddress).1 = false) {i : ℕ} {old : AssociationDevice}
    (hold : c.associationTable.slots[i]? = some old)
    (hplace : old.Free ∨
      (old.status = assocStatusDead ∧ ∀ e ∈ c.associationTable.slots, ¬ e.Free))
    {table : AssociationTable} (htable : table.slots = c.associationTable.slots.set i entry) :
    Inserted c entry (if old.Free then none else some old)
      { c with associationTable := table } := by
  have hlookup := SlotTable.lookup_of_set hdist hold htable (by simpa using hentry)
    (c.lookup_of_not_found device hnew)
  have hevicted : ∀ e ∈ (if old.Free then none else some old), ¬ old.Free ∧ e = old := by
    intro e he
    split_ifs at he with hfree
    · cases he
    · exact ⟨hfree, (Option.some.inj he).symm⟩
  have hold_ne : ∀ e ∈ (if old.Free then none else some old), e.extAddress ≠ entry.extAddress := by
    rintro e he heq
    obtain ⟨hfree, rfl⟩ := hevicted e he
    have := SlotTable.lookup_eq_none_iff.mp (c.lookup_of_not_found device hnew) e
      (List.mem_of_getElem? hold) (by simpa using hfree)
    exact this heq
  refine ⟨?_, ?_, ?_, ?_, ?_, SlotTable.keysDistinct_of_set hdist hold htable
    (c.lookup_of_not_found device hnew), rfl⟩
  · intro out
    rw [findDevice_eq, hlookup, if_pos rfl]
  · intro addr haddr hne out
    rw [findDevice_eq, hlookup, if_neg haddr, if_neg, findDevice_eq]
    rintro ⟨hused, rfl⟩
    have hfree : ¬ old.Free := by simpa using hused
    exact hne old (by rw [if_neg hfree]; rfl) rfl
  · intro e he out
    obtain ⟨hfree, rfl⟩ := hevicted e he
    rw [findDevice_eq, hlookup, if_neg (hold_ne e he), if_pos ⟨by simpa using hfree, rfl⟩]
  · intro e he
    obtain ⟨hfree, rfl⟩ := hevicted e he
    obtain ⟨hdead, hfull⟩ := hplace.resolve_left hfree
    exact ⟨List.mem_of_getElem? hold, hfree, hdead, hfull⟩
  · intro j e he hfree halive
    change table.slots[j]? = some e
    rw [SlotTable.getElem?_slots_of_set hold htable, if_neg, he]
    rintro rfl
    obtain rfl := Option.some.inj (hold.symm.trans he)
    obtain ⟨hdead, -⟩ := hplace.resolve_left hfree
    rw [hdead] at halive
    exact absurd halive (by decide)

end FifteenDotFourCollector

open FifteenDotFourCollector in
/-- **The insertion of a new device, on every table.** Let the entries in use have distinct extended
addresses, and let the search not find the device of an indication. If there is a free slot or a
dead entry, `addDevice` inserts an entry for it and evicts at most one device, which is dead, and
none if there is a free slot. Otherwise it reports that there is no slot, and changes nothing.

**Proof sketch.** The two scans of the table are for the first free slot and for the first dead
entry. Writing the new entry over either is an insertion (`inserted_of_set`). -/
theorem addDevice_spec (c : FifteenDotFourCollector) (hdist : c.associationTable.AddressesDistinct)
    (device : AssociationDevice) (pData : ApiMacMlmeAssociateInd)
    (hnew : (c.findDevice device pData.deviceAddress).1 = false) :
    ((∃ e ∈ c.associationTable.slots, e.Free ∨ e.status = assocStatusDead) →
      ∃ entry evicted c', c.addDevice device pData = (true, entry, c') ∧
        entry.extAddress = pData.deviceAddress ∧ entry.capInfo = pData.capabilityInformation ∧
        entry.status = assocStatusAlive ∧ Inserted c entry evicted c') ∧
    ((¬ ∃ e ∈ c.associationTable.slots, e.Free ∨ e.status = assocStatusDead) →
      ∃ entry, c.addDevice device pData = (false, entry, c)) := by
  have hentry := c.not_free_newEntry device pData
  constructor
  · rintro ⟨e, he, hplace⟩
    cases hfree : c.associationTable.place? (fun entry => decide entry.Free)
        (c.newEntry device pData) with
    | some table =>
      obtain ⟨i, old, hold, hp, -, htable⟩ := SlotTable.place?_eq_some_iff.mp hfree
      refine ⟨c.newEntry device pData, _, { c with associationTable := table }, ?_, rfl, rfl, rfl,
        c.inserted_of_set device hdist hentry hnew hold (Or.inl (by simpa using hp)) htable⟩
      simp only [addDevice, hfree]
    | none =>
      have hfull : ∀ e ∈ c.associationTable.slots, ¬ e.Free := fun e he => by
        simpa using SlotTable.place?_eq_none_iff.mp hfree e he
      cases hdead : c.associationTable.place? (fun entry => decide (entry.status = assocStatusDead))
          (c.newEntry device pData) with
      | some table =>
        obtain ⟨i, old, hold, hp, -, htable⟩ := SlotTable.place?_eq_some_iff.mp hdead
        refine ⟨c.newEntry device pData, _, { c with associationTable := table }, ?_, rfl, rfl, rfl,
          c.inserted_of_set device hdist hentry hnew hold (Or.inr ⟨by simpa using hp, hfull⟩)
            htable⟩
        simp only [addDevice, hfree, hdead]
      | none =>
        have hne := SlotTable.place?_eq_none_iff.mp hdead e he
        exact absurd (hplace.resolve_left (hfull e he)) (by simpa using hne)
  · intro hno
    have hno' : ∀ e ∈ c.associationTable.slots, ¬ e.Free ∧ e.status ≠ assocStatusDead :=
      fun e he => not_or.mp fun hplace => hno ⟨e, he, hplace⟩
    have hfree : c.associationTable.place? (fun entry => decide entry.Free)
        (c.newEntry device pData) = none :=
      SlotTable.place?_eq_none_iff.mpr fun e he => by simpa using (hno' e he).1
    have hdead : c.associationTable.place? (fun entry => decide (entry.status = assocStatusDead))
        (c.newEntry device pData) = none :=
      SlotTable.place?_eq_none_iff.mpr fun e he => by simpa using (hno' e he).2
    exact ⟨c.newEntry device pData, by simp only [addDevice, hfree, hdead]⟩

/-- An entry of a table that has been in use for a while. The devices 7 and 30 are dead. -/
def mixedEntry (gaps : List ℕ) (i : ℕ) : AssociationDevice where
  extAddress := #v[UInt8.ofNat i, 0, 0, 0, 0, 0, 0, 0]
  shortAddress := if i ∈ gaps then csfInvalidShortAddr else UInt16.ofNat (i + 1)
  capInfo := ⟨false, false, false, false, false, true⟩
  rssi := 0
  status := if i = 7 ∨ i = 30 then assocStatusDead else assocStatusAlive

/-- A collector with devices that are alive, devices that are dead, and gaps. -/
def mixedCollector (gaps : List ℕ) : FifteenDotFourCollector :=
  { sampleCollector with
    associationTable := ⟨(List.range configMaxDevices).map (mixedEntry gaps), by simp⟩
    numAssocDevices := 50 }

/-- The addresses are distinct. -/
theorem addressesDistinct_mixedCollector (gaps : List ℕ) :
    (mixedCollector gaps).associationTable.AddressesDistinct := by
  have hslot (i : ℕ) (a : AssociationDevice)
      (h : (mixedCollector gaps).associationTable.slots[i]? = some a) :
      i < 50 ∧ a.extAddress[0] = UInt8.ofNat i := by
    have hget : ((List.range 50).map (mixedEntry gaps))[i]? = some a := h
    rw [List.getElem?_map, Option.map_eq_some_iff] at hget
    obtain ⟨k, hk, rfl⟩ := hget
    obtain ⟨hlt, rfl⟩ := List.getElem?_eq_some_iff.mp hk
    rw [List.length_range] at hlt
    refine ⟨hlt, ?_⟩
    rw [List.getElem_range]
    rfl
  intro i j a b ha hb _ _ hkey
  obtain ⟨hi, hfirst⟩ := hslot i a ha
  obtain ⟨hj, hfirst'⟩ := hslot j b hb
  rw [hkey, hfirst'] at hfirst
  have hnat := congrArg UInt8.toNat hfirst
  rw [UInt8.toNat_ofNat_of_lt' (hj.trans (by decide)),
    UInt8.toNat_ofNat_of_lt' (hi.trans (by decide))] at hnat
  exact hnat.symm

/-- The indication of a device that is not in such a table. -/
def newcomer : ApiMacMlmeAssociateInd :=
  ⟨#v[200, 0, 0, 0, 0, 0, 0, 0], ⟨false, false, false, false, false, true⟩⟩

/-- A device joins a collector with two gaps, and no device is evicted; another one joins a full
table, and a dead device is evicted. -/
theorem addDevice_spec_mixedCollector :
    (∃ entry c', (mixedCollector [3, 12]).addDevice .zero newcomer = (true, entry, c') ∧
      entry.extAddress = newcomer.deviceAddress ∧
      entry.capInfo = newcomer.capabilityInformation ∧ entry.status = assocStatusAlive ∧
      Inserted (mixedCollector [3, 12]) entry none c') ∧
    ∃ entry e c', (mixedCollector []).addDevice .zero newcomer = (true, entry, c') ∧
      entry.extAddress = newcomer.deviceAddress ∧
      entry.capInfo = newcomer.capabilityInformation ∧ entry.status = assocStatusAlive ∧
      Inserted (mixedCollector []) entry (some e) c' := by
  constructor
  · have hgap : mixedEntry [3, 12] 3 ∈ (mixedCollector [3, 12]).associationTable.slots :=
      List.mem_map_of_mem (by decide)
    obtain ⟨entry, evicted, c', hadd, haddr, hcap, halive, hins⟩ :=
      (addDevice_spec (mixedCollector [3, 12]) (addressesDistinct_mixedCollector _) .zero newcomer
        (by decide +kernel)).1 ⟨_, hgap, Or.inl rfl⟩
    cases evicted with
    | none => exact ⟨entry, c', hadd, haddr, hcap, halive, hins⟩
    | some e => exact absurd rfl ((hins.evicted_dead e rfl).2.2.2 _ hgap)
  · have hdead : mixedEntry [] 7 ∈ (mixedCollector []).associationTable.slots :=
      List.mem_map_of_mem (by decide)
    obtain ⟨entry, evicted, c', hadd, haddr, hcap, halive, hins⟩ :=
      (addDevice_spec (mixedCollector []) (addressesDistinct_mixedCollector _) .zero newcomer
        (by decide +kernel)).1 ⟨_, hdead, Or.inr rfl⟩
    cases evicted with
    | some e => exact ⟨entry, e, c', hadd, haddr, hcap, halive, hins⟩
    | none =>
      -- the dead device is no longer found
      have hfound : ((mixedCollector []).findDevice .zero (mixedEntry [] 7).extAddress).1 =
          true := by
        decide +kernel
      have hgone : (((mixedCollector []).addDevice .zero newcomer).2.2.findDevice .zero
          (mixedEntry [] 7).extAddress).1 = false := by
        decide +kernel
      rw [hadd, hins.find_old _ (by rw [haddr]; decide) (by simp), hfound] at hgone
      cases hgone

end SensorCollector
