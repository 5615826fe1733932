import SensorCollector.Collector.Table
import SensorCollector.Lib.EventMachine
import SensorCollector.Lib.FirstArrivals

set_option relaxedAutoImplicit false
set_option autoImplicit false

/-!
# Runs of membership indications

The collector under any sequence of associate and disassociate indications. The table it ends with
is the record of the first devices that arrived, as many as there are slots.

## Main definitions

* `SensorCollector.MembershipInd`, `SensorCollector.membershipMachine` — the indications and their
  runs.
* `SensorCollector.arrivals`, `SensorCollector.joined` — the first indication of every device, and
  those among them that got a slot.
* `SensorCollector.RecordsFirstJoiners` — the table of a run in closed form.

## Main results

* `SensorCollector.recordOf_of_exec` — the table of a run is the record of its joiners.
* `SensorCollector.membership_step_cases` — what a step can do on an associate indication.
* `SensorCollector.recordsFirstJoiners` — the closed form of the table holds for every run.
-/

namespace SensorCollector

open EventMachine

/-! ## The runs -/

/-- The indications about membership. The associate callback starts with two locals that are not
initialised, which can have any value. -/
inductive MembershipInd
  /-- A call of `assocIndCb`. -/
  | assoc (pData : ApiMacMlmeAssociateInd) (device : AssociationDevice)
      (status : ApiMacAssocStatus)
  /-- A call of `disassocIndCb`. -/
  | disassoc (pData : ApiMacMlmeDisassociateInd)
  deriving DecidableEq

/-- The associate indication, if it is one. -/
def MembershipInd.assocData : MembershipInd → Option ApiMacMlmeAssociateInd
  | .assoc pData _ _ => some pData
  | .disassoc _ => none

/-- The collector as a machine on membership indications. The output of a step are its calls into
the MAC. -/
def membershipMachine : EventMachine FifteenDotFourCollector MembershipInd (List MacCall) where
  step c
    | .assoc pData device status =>
      some ((c.assocIndCb device status pData).1,
        [.mlmeAssociateRsp (c.assocIndCb device status pData).2])
    | .disassoc pData => some (c.disassocIndCb pData, [])

/-- A step of a run. -/
abbrev MembershipStep := Transition FifteenDotFourCollector MembershipInd (List MacCall)

/-- The associate indications of a list of events. -/
def assocInds (inds : List MembershipInd) : List ApiMacMlmeAssociateInd :=
  inds.filterMap MembershipInd.assocData

/-- The associate indications of a history. -/
def indications (tr : List MembershipStep) : List ApiMacMlmeAssociateInd :=
  assocInds (tr.map Transition.event)

/-- The first indication of every device of a history, in order of arrival. -/
def arrivals (tr : List MembershipStep) : List ApiMacMlmeAssociateInd :=
  (indications tr).firstArrivals (·.deviceAddress)

/-- The arrivals that get a slot. -/
def joined (tr : List MembershipStep) : List ApiMacMlmeAssociateInd :=
  (arrivals tr).take configMaxDevices

/-- Every indication is handled. -/
theorem membershipMachine_total (c : FifteenDotFourCollector) (ind : MembershipInd) :
    ∃ c' calls, membershipMachine.step c ind = some (c', calls) := by
  cases ind with
  | assoc pData device status => exact ⟨_, _, rfl⟩
  | disassoc pData => exact ⟨_, _, rfl⟩

/-! ## Arrivals -/

/-- The associate indications of a history with one more step. -/
theorem indications_concat (tr : List MembershipStep) (t : MembershipStep) :
    indications (tr ++ [t]) = indications tr ++ t.event.assocData.toList := by
  rw [indications, indications, List.map_append, assocInds, List.filterMap_append]
  cases h : t.event.assocData <;> simp [h, assocInds]

/-- A step on an associate indication adds it to the arrivals if its device is new. -/
theorem arrivals_concat_of_assoc (tr : List MembershipStep) {t : MembershipStep}
    {pData : ApiMacMlmeAssociateInd} (ht : t.event.assocData = some pData) :
    arrivals (tr ++ [t]) =
      if pData.deviceAddress ∈ (arrivals tr).map (·.deviceAddress) then arrivals tr
      else arrivals tr ++ [pData] := by
  rw [arrivals, indications_concat, ht, Option.toList_some]
  split_ifs with hmem
  · exact List.firstArrivals_concat_of_mem _ hmem
  · exact List.firstArrivals_concat_of_not_mem _ hmem

/-- A step on a disassociate indication leaves the arrivals as they are. -/
theorem arrivals_concat_of_none (tr : List MembershipStep) {t : MembershipStep}
    (ht : t.event.assocData = none) : arrivals (tr ++ [t]) = arrivals tr := by
  rw [arrivals, indications_concat, ht, Option.toList_none, List.append_nil]
  rfl

/-- The arrivals of a history stay the first ones of every longer history. -/
theorem arrivals_mono (tr tr' : List MembershipStep) : arrivals tr <+: arrivals (tr ++ tr') := by
  induction tr' using List.reverseRecOn with
  | nil => rw [List.append_nil]
  | append_singleton tr' t ih =>
    refine ih.trans ?_
    rw [← List.append_assoc]
    cases ht : t.event.assocData with
    | none => rw [arrivals_concat_of_none _ ht]
    | some pData =>
      rw [arrivals_concat_of_assoc _ ht]
      split_ifs with hmem
      · exact List.prefix_refl _
      · exact List.prefix_append _ _

/-- The joiners of a history stay the first ones of every longer history. -/
theorem joined_mono (tr tr' : List MembershipStep) : joined tr <+: joined (tr ++ tr') :=
  (arrivals_mono tr tr').take configMaxDevices

/-- A joiner keeps its number. -/
theorem getElem?_joined_append {tr : List MembershipStep} (tr' : List MembershipStep) {i : ℕ}
    {ind : ApiMacMlmeAssociateInd} (h : (joined tr)[i]? = some ind) :
    (joined (tr ++ tr'))[i]? = some ind := by
  obtain ⟨rest, hrest⟩ := joined_mono tr tr'
  rw [← hrest, List.getElem?_append_left (List.getElem?_eq_some_iff.mp h).1, h]

/-- There are as many joiners as arrivals until the slots are used up. -/
theorem length_joined (tr : List MembershipStep) :
    (joined tr).length = min (arrivals tr).length configMaxDevices := by
  rw [joined, List.length_take, Nat.min_comm]

/-- A joiner is an arrival below the number of slots. -/
theorem getElem?_joined {tr : List MembershipStep} {i : ℕ} {ind : ApiMacMlmeAssociateInd} :
    (joined tr)[i]? = some ind ↔ i < configMaxDevices ∧ (arrivals tr)[i]? = some ind := by
  rw [joined, List.getElem?_take]
  split_ifs with hi
  · simp [hi]
  · simp [hi]

/-- The joiners after a step on an associate indication. -/
theorem joined_concat_of_assoc (tr : List MembershipStep) {t : MembershipStep}
    {pData : ApiMacMlmeAssociateInd} (ht : t.event.assocData = some pData) :
    joined (tr ++ [t]) = enroll (joined tr) pData := by
  have hlen := length_joined tr
  rw [joined, arrivals_concat_of_assoc tr ht, enroll]
  by_cases hfull : configMaxDevices ≤ (joined tr).length
  · rw [if_pos (Or.inr hfull)]
    split_ifs with hmem
    · rfl
    · rw [List.take_append_of_le_length (by omega)]
      rfl
  · have hall : joined tr = arrivals tr := List.take_of_length_le (by omega)
    rw [hall]
    by_cases hmem : pData.deviceAddress ∈ (arrivals tr).map (·.deviceAddress)
    · rw [if_pos hmem, if_pos (Or.inl hmem)]
      exact hall
    · rw [hall] at hfull
      rw [if_neg hmem, if_neg (not_or.mpr ⟨hmem, hfull⟩), List.take_of_length_le]
      rw [List.length_append, List.length_singleton]
      omega

/-! ## The record of a run -/

section Runs

variable {rxBlock txBlock : Option (ℕ × List UInt8)} {raw : FifteenDotFour} {panID : UInt16}

/-- **The table of a run is the record of its joiners.**

**Proof sketch.** The new table records no joiners; the associate callback admits the device of its
indication, and the disassociate callback does nothing. -/
theorem recordOf_of_exec {inds : List MembershipInd} {tr : List MembershipStep}
    {c : FifteenDotFourCollector}
    (h : membershipMachine.exec (.construct rxBlock txBlock raw panID) inds = some (tr, c)) :
    RecordOf (joined tr) c := by
  refine membershipMachine.exec_induction (P := fun _ tr c => RecordOf (joined tr) c)
    (recordOf_construct rxBlock txBlock raw panID) ?_ h
  intro inds tr c ind c' calls _ hrec hs
  cases ind with
  | assoc pData device status =>
    simp only [membershipMachine, Option.some.injEq, Prod.mk.injEq] at hs
    obtain ⟨rfl, rfl⟩ := hs
    rw [joined_concat_of_assoc tr rfl]
    exact hrec.assocIndCb device status pData
  | disassoc pData =>
    simp only [membershipMachine, Option.some.injEq, Prod.mk.injEq] at hs
    obtain ⟨rfl, rfl⟩ := hs
    rw [joined, arrivals_concat_of_none tr rfl]
    exact hrec

end Runs

/-- A step on a disassociate indication does nothing. -/
theorem membership_step_of_none {t : MembershipStep}
    (hs : membershipMachine.step t.pre t.event = some (t.post, t.out))
    (ht : t.event.assocData = none) : t.post = t.pre ∧ t.out = [] := by
  obtain ⟨c, ind, calls, c'⟩ := t
  cases ind with
  | assoc pData device status => simp [MembershipInd.assocData] at ht
  | disassoc pData =>
    simp only [membershipMachine, Option.some.injEq, Prod.mk.injEq] at hs
    exact ⟨hs.1.symm, hs.2.symm⟩

/-- What a step on an associate indication can do, from a table that records `members`: confirm a
member, give a new device the next slot, or answer a new device although every slot is used. -/
theorem membership_step_cases {members : List ApiMacMlmeAssociateInd} {t : MembershipStep}
    {pData : ApiMacMlmeAssociateInd} (hrec : RecordOf members t.pre)
    (hs : membershipMachine.step t.pre t.event = some (t.post, t.out))
    (ht : t.event.assocData = some pData) :
    (∃ i ind e, members[i]? = some ind ∧ ind.deviceAddress = pData.deviceAddress ∧
        t.pre.associationTable.slots[i]? = some e ∧ EntryFor i ind e ∧ t.post = t.pre ∧
        t.out = [.mlmeAssociateRsp (successRsp e)]) ∨
      (pData.deviceAddress ∉ members.map (·.deviceAddress) ∧ members.length < configMaxDevices ∧
        ∃ e, EntryFor members.length pData e ∧
          t.post.associationTable.slots = t.pre.associationTable.slots.set members.length e ∧
          t.out = [.mlmeAssociateRsp (successRsp e)]) ∨
      (pData.deviceAddress ∉ members.map (·.deviceAddress) ∧ configMaxDevices ≤ members.length ∧
        ∃ e, EntryFor members.length pData e ∧ t.post = t.pre ∧
          t.out = [.mlmeAssociateRsp (successRsp e)]) := by
  obtain ⟨c, ind, calls, c'⟩ := t
  cases ind with
  | disassoc _ => simp [MembershipInd.assocData] at ht
  | assoc pData' device status =>
    obtain rfl : pData' = pData := by simpa [MembershipInd.assocData] using ht
    simp only [membershipMachine, Option.some.injEq, Prod.mk.injEq] at hs
    obtain ⟨rfl, rfl⟩ := hs
    by_cases hmem : pData'.deviceAddress ∈ members.map (·.deviceAddress)
    · obtain ⟨ind, hind, haddr⟩ := List.mem_map.mp hmem
      obtain ⟨i, hi⟩ := List.mem_iff_getElem?.mp hind
      obtain ⟨e, he, hentry, hcb⟩ := hrec.assocIndCb_of_joined device status hi haddr
      exact Or.inl ⟨i, ind, e, hi, haddr, he, hentry, by rw [hcb], by rw [hcb]⟩
    · by_cases hfull : configMaxDevices ≤ members.length
      · obtain ⟨e, hentry, hcb⟩ := hrec.assocIndCb_of_full device status hmem hfull
        exact Or.inr (Or.inr ⟨hmem, hfull, e, hentry, by rw [hcb], by rw [hcb]⟩)
      · obtain ⟨e, table, hentry, htable, hcb, -⟩ :=
          hrec.assocIndCb_of_room device status hmem (by omega)
        refine Or.inr (Or.inl ⟨hmem, by omega, e, hentry, ?_, ?_⟩)
        · rw [hcb]
          exact htable
        · rw [hcb]

section Runs

variable {rxBlock txBlock : Option (ℕ × List UInt8)} {raw : FifteenDotFour} {panID : UInt16}

/-- While a slot is left, the joiners are all the devices that have asked to join. -/
theorem mem_indications_of_room {tr : List MembershipStep} {addr : ApiMacSAddrExt}
    (hroom : (joined tr).length < configMaxDevices) :
    addr ∈ (joined tr).map (·.deviceAddress) ↔ addr ∈ (indications tr).map (·.deviceAddress) := by
  have hlen := length_joined tr
  have hall : joined tr = arrivals tr := List.take_of_length_le (by omega)
  rw [hall, arrivals, List.mem_map_firstArrivals]

/-- A step of a run starts with the record of the joiners before it. -/
theorem recordOf_pre {inds : List MembershipInd} {tr₁ tr₂ : List MembershipStep}
    {t : MembershipStep} {c : FifteenDotFourCollector}
    (h : membershipMachine.exec (.construct rxBlock txBlock raw panID) inds =
      some (tr₁ ++ t :: tr₂, c)) : RecordOf (joined tr₁) t.pre :=
  recordOf_of_exec (membershipMachine.exec_split h).1

/-- A step of a run ends with the record of the joiners after it. -/
theorem recordOf_post {inds : List MembershipInd} {tr₁ tr₂ : List MembershipStep}
    {t : MembershipStep} {c : FifteenDotFourCollector}
    (h : membershipMachine.exec (.construct rxBlock txBlock raw panID) inds =
      some (tr₁ ++ t :: tr₂, c)) : RecordOf (joined (tr₁ ++ [t])) t.post := by
  obtain ⟨hx, hs⟩ := membershipMachine.exec_split h
  exact recordOf_of_exec
    ((membershipMachine.exec_snoc_eq_some).mpr ⟨tr₁, t.pre, t.out, hx, hs, rfl⟩)

/-- A device with a slot is answered with the short address of that slot, whenever it asks.

**Proof sketch.** At that step the device is confirmed or gets its slot, and it keeps its number
from then on. It cannot have been refused, because then it would never get a slot. -/
theorem answer_of_joined {inds : List MembershipInd} {tr₁ tr₂ : List MembershipStep}
    {t : MembershipStep} {c : FifteenDotFourCollector}
    (h : membershipMachine.exec (.construct rxBlock txBlock raw panID) inds =
      some (tr₁ ++ t :: tr₂, c))
    {pData ind : ApiMacMlmeAssociateInd} (ht : t.event.assocData = some pData) {i : ℕ}
    (hi : (joined (tr₁ ++ t :: tr₂))[i]? = some ind)
    (haddr : ind.deviceAddress = pData.deviceAddress) :
    ∃ e, EntryFor i ind e ∧ t.out = [.mlmeAssociateRsp (successRsp e)] := by
  have hrec := recordOf_of_exec h
  rcases membership_step_cases (recordOf_pre h) (membershipMachine.exec_split h).2 ht with
    ⟨j, ind', e, hj, haddr', -, hentry, -, hout⟩ | ⟨hnew, hroom, e, hentry, -, hout⟩ |
    ⟨hnew, hfull, e, -, -, -⟩
  · have hj' := getElem?_joined_append (t :: tr₂) hj
    obtain rfl := hrec.index_unique hi hj' (haddr.trans haddr'.symm)
    obtain rfl : ind = ind' := by
      rw [hj', Option.some.injEq] at hi
      exact hi.symm
    exact ⟨e, hentry, hout⟩
  · have hj : (joined (tr₁ ++ [t]))[(joined tr₁).length]? = some pData := by
      rw [joined_concat_of_assoc tr₁ ht, enroll, if_neg (not_or.mpr ⟨hnew, by omega⟩)]
      simp
    have hj' := getElem?_joined_append tr₂ hj
    rw [List.append_assoc, List.singleton_append] at hj'
    obtain rfl := hrec.index_unique hi hj' haddr
    obtain rfl : ind = pData := by
      rw [hj', Option.some.injEq] at hi
      exact hi.symm
    exact ⟨e, hentry, hout⟩
  · have heq : joined tr₁ = joined (tr₁ ++ t :: tr₂) :=
      (joined_mono tr₁ (t :: tr₂)).eq_of_length_le (hrec.length_le.trans hfull)
    rw [heq, ← haddr] at hnew
    exact absurd (List.mem_map_of_mem (List.mem_of_getElem? hi)) hnew

/-- A device that has asked before changes nothing when it asks again. -/
theorem post_eq_pre_of_repeated {inds : List MembershipInd} {tr₁ tr₂ : List MembershipStep}
    {t : MembershipStep} {c : FifteenDotFourCollector}
    (h : membershipMachine.exec (.construct rxBlock txBlock raw panID) inds =
      some (tr₁ ++ t :: tr₂, c))
    {pData : ApiMacMlmeAssociateInd} (ht : t.event.assocData = some pData)
    (hold : pData.deviceAddress ∈ (indications tr₁).map (·.deviceAddress)) :
    t.post = t.pre := by
  rcases membership_step_cases (recordOf_pre h) (membershipMachine.exec_split h).2 ht with
    ⟨j, ind', e, -, -, -, -, hpost, -⟩ | ⟨hnew, hroom, -⟩ | ⟨-, -, e, -, hpost, -⟩
  · exact hpost
  · exact absurd ((mem_indications_of_room hroom).mpr hold) hnew
  · exact hpost

end Runs

/-! ## The closed form of the table -/

/-- The history `tr` of a new collector, which ends in `c`, has made the table the record of the
first devices that arrived. The arrivals are the devices `d₀, d₁, …` of the history, each with its
first indication. -/
structure RecordsFirstJoiners (tr : List MembershipStep) (c : FifteenDotFourCollector) :
    Prop where
  /-- There are as many arrivals as devices that have asked to join. -/
  length_arrivals : (arrivals tr).length =
    ((indications tr).map (·.deviceAddress)).toFinset.card
  /-- An arrival is the first indication of its device. -/
  first : ∀ ind ∈ arrivals tr,
    (indications tr).find? (fun ind' => ind'.deviceAddress = ind.deviceAddress) = some ind
  /-- The arrivals are in order. -/
  sublist : (arrivals tr).Sublist (indications tr)
  /-- Slot `i` belongs to arrival `i`. -/
  entry : ∀ i ind, i < configMaxDevices → (arrivals tr)[i]? = some ind →
    ∃ e, c.associationTable.slots[i]? = some e ∧ EntryFor i ind e
  /-- The other slots have the invalid short address. -/
  invalid : ∀ i e, min (arrivals tr).length configMaxDevices ≤ i →
    c.associationTable.slots[i]? = some e → e.shortAddress = csfInvalidShortAddr
  /-- The devices in the table are counted. -/
  num : c.numAssocDevices.toNat = min (arrivals tr).length configMaxDevices
  /-- A device that asks again changes nothing. -/
  repeated : ∀ tr₁ t tr₂ pData, tr = tr₁ ++ t :: tr₂ → t.event.assocData = some pData →
    pData.deviceAddress ∈ (indications tr₁).map (·.deviceAddress) → t.post = t.pre
  /-- A device in the table is answered with the short address of its slot, each time it asks. -/
  answered : ∀ t ∈ tr, ∀ pData, t.event.assocData = some pData →
    ∀ i ind, i < configMaxDevices → (arrivals tr)[i]? = some ind →
      ind.deviceAddress = pData.deviceAddress →
      ∃ rsp, t.out = [.mlmeAssociateRsp rsp] ∧ rsp.deviceAddress = pData.deviceAddress ∧
        rsp.assocShortAddress = slotAddress i
  /-- Two slots in use have different extended and short addresses. -/
  distinct : ∀ (i j : ℕ) (e e' : AssociationDevice), i ≠ j → c.associationTable.slots[i]? = some e →
    c.associationTable.slots[j]? = some e' → ¬ e.Free → ¬ e'.Free →
    e.extAddress ≠ e'.extAddress ∧ e.shortAddress ≠ e'.shortAddress

/-- **The association table is the record of the first distinct joiners**, for every sequence of
associate and disassociate indications on a new collector.

**Proof sketch.** The table is the record of the joiners (`recordOf_of_exec`), which are the first
arrivals. The answers follow from `answer_of_joined`, and the addresses differ because a record has
no extended address twice and short addresses count the slots. -/
theorem recordsFirstJoiners (rxBlock txBlock : Option (ℕ × List UInt8)) (raw : FifteenDotFour)
    (panID : UInt16) (inds : List MembershipInd) :
    membershipMachine.Holds RecordsFirstJoiners (.construct rxBlock txBlock raw panID) inds := by
  obtain ⟨tr, c, hx⟩ := membershipMachine.exec_of_total membershipMachine_total
    (.construct rxBlock txBlock raw panID) inds
  have hrec := recordOf_of_exec hx
  refine ⟨tr, c, hx, ?_⟩
  constructor
  case length_arrivals => exact List.length_firstArrivals _ _
  case first => exact fun ind hind => List.find?_eq_of_mem_firstArrivals _ hind
  case sublist => exact List.firstArrivals_sublist _ _
  case entry => exact fun i ind hi hind => hrec.entry i ind (getElem?_joined.mpr ⟨hi, hind⟩)
  case invalid =>
    intro i e hi he
    exact hrec.free i e (by rw [length_joined]; exact hi) he
  case num =>
    rw [hrec.num, length_joined]
  case repeated =>
    rintro tr₁ t tr₂ pData rfl ht hold
    exact post_eq_pre_of_repeated hx ht hold
  case answered =>
    intro t htr pData ht i ind hi hind haddr
    obtain ⟨tr₁, tr₂, rfl⟩ := List.append_of_mem htr
    obtain ⟨e, hentry, hout⟩ := answer_of_joined hx ht (getElem?_joined.mpr ⟨hi, hind⟩) haddr
    exact ⟨successRsp e, hout, hentry.extAddress.trans haddr, hentry.shortAddress⟩
  case distinct =>
    intro i j e e' hij he he' hfree hfree'
    obtain ⟨ind, hi, hentry⟩ := hrec.exists_of_slot he hfree
    obtain ⟨ind', hj, hentry'⟩ := hrec.exists_of_slot he' hfree'
    constructor
    · rw [hentry.extAddress, hentry'.extAddress]
      exact fun haddr => hij (hrec.index_unique hi hj haddr)
    · rw [hentry.shortAddress, hentry'.shortAddress]
      exact fun haddr => hij (slotAddress_injOn (hrec.lt_max hi).le (hrec.lt_max hj).le haddr)

end SensorCollector
