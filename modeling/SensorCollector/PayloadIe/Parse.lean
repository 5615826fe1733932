import SensorCollector.PayloadIe.Records

set_option relaxedAutoImplicit false
set_option autoImplicit false

/-!
# Parsing payload information elements

The rounds of the parser, and its loop over the elements that are there completely: it makes one
record for each of them.

## Main definitions

* `SensorCollector.headerItem`, `SensorCollector.Ie.item` — the item for a header, and for an
  element.
* `SensorCollector.ieItems` — the items for elements that are one after the other.

## Main results

* `SensorCollector.ieRound_header` — what a round makes of a header.
* `SensorCollector.ieLoop_hasRecords` — the loop keeps a list of records.
* `SensorCollector.ieLoop_elements` — the loop over complete elements.
-/

namespace SensorCollector

/-! ## One round -/

/-- The item for a header, with the contents at `pContent`. -/
def headerItem (low high : UInt8) (pContent : ℕ) : ApiMacPayloadIeItem :=
  ⟨headerLong high, UInt8.ofNat (headerId high), UInt16.ofNat (headerLen low high), pContent⟩

section Round

variable {buf : List UInt8} {contentLen lenContent : UInt16} {group : Bool} {pContent : ℕ}

/-- At the end of the bytes the loop ends. -/
theorem ieRound_end (h : contentLen.toNat ≤ lenContent.toNat) :
    ieRound buf contentLen group pContent lenContent = some (.done ApiMacStatus.success) := by
  have hge : ¬ lenContent < contentLen := by
    rw [UInt16.lt_iff_toNat_lt]
    omega
  rw [ieRound, if_neg hge]

/-- A header is read beyond the end of the block. -/
theorem ieRound_outside (hlt : lenContent.toNat < contentLen.toNat)
    (hout : buf[pContent + 1]? = none) :
    ieRound buf contentLen group pContent lenContent = none := by
  rw [ieRound, if_pos (UInt16.lt_iff_toNat_lt.mpr hlt), hout]
  cases buf[pContent]? <;> rfl

/-- **What a round makes of a header.** -/
theorem ieRound_header {low high : UInt8} (hlt : lenContent.toNat < contentLen.toNat)
    (hlow : buf[pContent]? = some low) (hhigh : buf[pContent + 1]? = some high) :
    ieRound buf contentLen group pContent lenContent =
      some (if IsRead group (headerLong high) (headerId high) then
          .item (headerItem low high (pContent + payloadIeHeaderLen))
        else if headerLong high then .done ApiMacStatus.success
        else .done ApiMacStatus.unsupported) := by
  have hid : (if headerLong high then getSubieIdLong (makeUint16 low high)
      else getSubieIdShort (makeUint16 low high)) = UInt8.ofNat (headerId high) := by
    rw [← getSubieId_header low high, UInt8.ofNat_toNat]
  have hlen : (if headerLong high then getSubieLenLong (makeUint16 low high)
      else getSubieLenShort (makeUint16 low high)) = UInt16.ofNat (headerLen low high) := by
    rw [← getSubieLen_header low high, UInt16.ofNat_toNat]
  have hterm : payloadIEGroupTerm = UInt8.ofNat (headerId high) ↔
      headerId high = payloadIEGroupTerm.toNat := by
    rw [← getSubieId_header low high, UInt8.ofNat_toNat, eq_comm, UInt8.toNat_inj]
  simp only [ieRound, if_pos (UInt16.lt_iff_toNat_lt.mpr hlt), hlow, hhigh, Option.bind_eq_bind,
    Option.bind_some, getSubieType_header, hid, hlen, hterm, IsRead, headerItem]
  cases group <;> cases headerLong high <;>
    by_cases h : headerId high = payloadIEGroupTerm.toNat <;> simp [h]

/-- The statuses a round can end the loop with. -/
theorem ieRound_status {status : ApiMacStatus}
    (h : ieRound buf contentLen group pContent lenContent = some (.done status)) :
    status = ApiMacStatus.success ∨ status = ApiMacStatus.unsupported := by
  by_cases hlt : lenContent.toNat < contentLen.toNat
  · cases hhigh : buf[pContent + 1]? with
    | none =>
      rw [ieRound_outside hlt hhigh] at h
      cases h
    | some high =>
      have hin : pContent < buf.length := by
        have := (List.getElem?_eq_some_iff.mp hhigh).1
        omega
      rw [ieRound_header hlt (List.getElem?_eq_getElem hin) hhigh] at h
      split_ifs at h
      · cases h
      · cases h
        exact Or.inl rfl
      · cases h
        exact Or.inr rfl
  · rw [ieRound_end (by omega)] at h
    cases h
    exact Or.inl rfl

end Round

/-! ## The loop -/

section Loop

variable {heap : IeHeap} {buf : List UInt8} {contentLen : UInt16} {group : Bool}
variable {blocks : List Addr} {s : IeParse}

/-- The loop ends with a round. -/
theorem ieLoop_done {status : ApiMacStatus}
    (h : ieRound buf contentLen group s.pContent s.lenContent = some (.done status)) :
    ieLoop buf contentLen group blocks s = some (s, status) := by
  cases blocks <;> simp [ieLoop, h]

/-- The loop ends because there is no block for a record. -/
theorem ieLoop_noBlock {item : ApiMacPayloadIeItem}
    (h : ieRound buf contentLen group s.pContent s.lenContent = some (.item item)) :
    ieLoop buf contentLen group [] s = some (s, ApiMacStatus.noResources) := by
  simp [ieLoop, h]

/-- The loop goes on after a record has been made. -/
theorem ieLoop_item {item : ApiMacPayloadIeItem} {b : Addr} {s' : IeParse}
    (h : ieRound buf contentLen group s.pContent s.lenContent = some (.item item))
    (hadd : s.add b item = some s') :
    ieLoop buf contentLen group (b :: blocks) s = ieLoop buf contentLen group blocks s' := by
  simp [ieLoop, h, hadd]

/-- The loop reads beyond the end of the block. -/
theorem ieLoop_outside (h : ieRound buf contentLen group s.pContent s.lenContent = none) :
    ieLoop buf contentLen group blocks s = none := by
  cases blocks <;> simp [ieLoop, h]

/-- **How the loop ends**: with its first round, for want of a block, or after it has gone on with
one more record. -/
theorem ieLoop_cases {s' : IeParse} {status : ApiMacStatus}
    (hloop : ieLoop buf contentLen group blocks s = some (s', status)) :
    (ieRound buf contentLen group s.pContent s.lenContent = some (.done status) ∧ s' = s) ∨
      (blocks = [] ∧ status = ApiMacStatus.noResources ∧ s' = s) ∨
      ∃ b bs item s₁, blocks = b :: bs ∧ s.add b item = some s₁ ∧
        ieLoop buf contentLen group bs s₁ = some (s', status) := by
  cases hround : ieRound buf contentLen group s.pContent s.lenContent with
  | none => simp [ieLoop_outside hround] at hloop
  | some r =>
    cases r with
    | done st =>
      rw [ieLoop_done hround] at hloop
      cases hloop
      exact Or.inl ⟨rfl, rfl⟩
    | item item =>
      cases blocks with
      | nil =>
        rw [ieLoop_noBlock hround] at hloop
        cases hloop
        exact Or.inr (Or.inl ⟨rfl, rfl, rfl⟩)
      | cons b bs =>
        cases hadd : s.add b item with
        | none => simp [ieLoop, hround, hadd] at hloop
        | some s₁ =>
          rw [ieLoop_item hround hadd] at hloop
          exact Or.inr (Or.inr ⟨b, bs, item, s₁, rfl, hadd, hloop⟩)

/-- The loop never ends with the status for no data. -/
theorem ieLoop_ne_noData {s' : IeParse} {status : ApiMacStatus}
    (hloop : ieLoop buf contentLen group blocks s = some (s', status)) :
    status ≠ ApiMacStatus.noData := by
  induction blocks generalizing s with
  | nil =>
    obtain ⟨hround, -⟩ | ⟨-, rfl, -⟩ | ⟨b, bs, item, s₁, hblocks, -⟩ := ieLoop_cases hloop
    · rcases ieRound_status hround with rfl | rfl <;> decide
    · decide
    · cases hblocks
  | cons b blocks ih =>
    obtain ⟨hround, -⟩ | ⟨-, rfl, -⟩ | ⟨b, bs, item, s₁, hblocks, -, hloop⟩ := ieLoop_cases hloop
    · rcases ieRound_status hround with rfl | rfl <;> decide
    · decide
    · cases hblocks
      exact ih hloop

/-- **Whatever the bytes are**, the loop keeps a list of records, at the blocks it has been given,
in their order.

**Proof sketch.** Induction on the blocks. -/
theorem ieLoop_hasRecords {recs : List (Addr × ApiMacPayloadIeItem)}
    (hrecs : s.HasRecords heap recs) (hnodup : (recs.map Prod.fst ++ blocks).Nodup)
    {s' : IeParse} {status : ApiMacStatus}
    (hloop : ieLoop buf contentLen group blocks s = some (s', status)) :
    ∃ recs', s'.HasRecords heap recs' ∧
      recs'.map Prod.fst <+: recs.map Prod.fst ++ blocks := by
  induction blocks generalizing s recs with
  | nil =>
    obtain ⟨-, rfl⟩ | ⟨-, -, rfl⟩ | ⟨b, bs, item, s₁, hblocks, -⟩ := ieLoop_cases hloop
    · exact ⟨recs, hrecs, List.prefix_append _ _⟩
    · exact ⟨recs, hrecs, List.prefix_append _ _⟩
    · cases hblocks
  | cons b blocks ih =>
    obtain ⟨-, rfl⟩ | ⟨hblocks, -⟩ | ⟨b', bs, item, s₁, hblocks, hadd, hloop⟩ :=
      ieLoop_cases hloop
    · exact ⟨recs, hrecs, List.prefix_append _ _⟩
    · cases hblocks
    · cases hblocks
      have hb : b ∉ recs.map Prod.fst := fun hmem =>
        (List.nodup_append.mp hnodup).2.2 b hmem b (by simp) rfl
      obtain ⟨s₂, hadd', hrecs₂, -, -⟩ := hrecs.add (List.nodup_append.mp hnodup).1 hb item
      obtain rfl := Option.some.inj (hadd.symm.trans hadd')
      have hmap : (recs ++ [(b, item)]).map Prod.fst ++ blocks =
          recs.map Prod.fst ++ b :: blocks := by simp
      obtain ⟨recs', hrecs', hpre⟩ := ih hrecs₂ (by rw [hmap]; exact hnodup) hloop
      exact ⟨recs', hrecs', hmap ▸ hpre⟩

end Loop

/-! ## The elements that are there completely -/

/-- The item for an element, with the contents at `pContent`. -/
def Ie.item (ie : Ie) (pContent : ℕ) : ApiMacPayloadIeItem :=
  ⟨ie.typeLong, UInt8.ofNat ie.id, UInt16.ofNat ie.content.length, pContent⟩

/-- The items for elements that are one after the other. -/
def ieItems : ℕ → List Ie → List ApiMacPayloadIeItem
  | _, [] => []
  | pContent, ie :: ies =>
    ie.item (pContent + payloadIeHeaderLen) :: ieItems (pContent + ie.encode.length) ies

@[simp] theorem length_ieItems (pContent : ℕ) (ies : List Ie) :
    (ieItems pContent ies).length = ies.length := by
  induction ies generalizing pContent with
  | nil => rfl
  | cons ie ies ih => simp [ieItems, ih]

/-- The length in the item for an element is the one of its contents. -/
theorem Ie.toNat_item (ie : Ie) (pContent : ℕ) :
    (ie.item pContent).ieContentLen.toNat = ie.content.length := by
  have hlt : ie.content.length < 2048 := by
    refine lt_of_lt_of_le ie.length_lt ?_
    split <;> decide
  show (UInt16.ofNat ie.content.length).toNat = _
  rw [UInt16.toNat_ofNat', Nat.mod_eq_of_lt (by omega)]

/-- The item for the header of an element is the one for the element. -/
theorem headerItem_encode (ie : Ie) (pContent : ℕ) :
    headerItem (UInt8.ofNat ie.content.length) (UInt8.ofNat ie.high) pContent =
      ie.item pContent := by
  rw [headerItem, headerLong_high, headerId_high, headerLen_encode, Ie.item]

section Elements

variable {heap : IeHeap} {buf : List UInt8} {contentLen : UInt16} {group : Bool}

/-- The round at an element that is read. -/
theorem ieRound_element {s : IeParse} {ie : Ie} {rest : List UInt8}
    (hread : IsRead group ie.typeLong ie.id) (hbuf : buf.drop s.pContent = ie.encode ++ rest)
    (hlt : s.lenContent.toNat < contentLen.toNat) :
    ieRound buf contentLen group s.pContent s.lenContent =
      some (.item (ie.item (s.pContent + payloadIeHeaderLen))) := by
  have hlow : buf[s.pContent]? = some (UInt8.ofNat ie.content.length) := by
    have h := @List.getElem?_drop _ buf s.pContent 0
    rw [hbuf] at h
    exact h.symm
  have hhigh : buf[s.pContent + 1]? = some (UInt8.ofNat ie.high) := by
    have h := @List.getElem?_drop _ buf s.pContent 1
    rw [hbuf] at h
    exact h.symm
  rw [ieRound_header hlt hlow hhigh, headerLong_high, headerId_high, if_pos hread,
    headerItem_encode]

/-- **The loop over elements** that are there completely makes a record for each of them.

**Proof sketch.** Induction on the elements. -/
theorem ieLoop_elements {ies : List Ie} (hread : ∀ ie ∈ ies, IsRead group ie.typeLong ie.id)
    {s : IeParse} {recs : List (Addr × ApiMacPayloadIeItem)} {blocks : List Addr}
    {rest : List UInt8} (hrecs : s.HasRecords heap recs)
    (hnodup : (recs.map Prod.fst ++ blocks).Nodup)
    (hbuf : buf.drop s.pContent = (ieCode group).encodeAll ies ++ rest)
    (hlen : s.lenContent.toNat + ((ieCode group).encodeAll ies).length ≤ contentLen.toNat)
    (hroom : ies.length ≤ blocks.length) :
    ∃ s', ieLoop buf contentLen group blocks s =
        ieLoop buf contentLen group (blocks.drop ies.length) s' ∧
      s'.HasRecords heap (recs ++ blocks.zip (ieItems s.pContent ies)) ∧
      s'.pContent = s.pContent + ((ieCode group).encodeAll ies).length ∧
      s'.lenContent.toNat = s.lenContent.toNat + ((ieCode group).encodeAll ies).length := by
  induction ies generalizing s recs blocks with
  | nil => exact ⟨s, rfl, by simpa [ieItems] using hrecs, rfl, rfl⟩
  | cons ie ies ih =>
    obtain ⟨b, blocks, rfl⟩ : ∃ b bs, blocks = b :: bs := by
      cases blocks with
      | nil => simp at hroom
      | cons b bs => exact ⟨b, bs, rfl⟩
    rw [List.forall_mem_cons] at hread
    have hencode : (ieCode group).encodeAll (ie :: ies) =
        ie.encode ++ (ieCode group).encodeAll ies := rfl
    rw [hencode, List.append_assoc] at hbuf
    rw [hencode, List.length_append, Ie.length_encode] at hlen
    have hround := ieRound_element hread.1 hbuf
      (show s.lenContent.toNat < contentLen.toNat by omega)
    have hb : b ∉ recs.map Prod.fst := fun hmem =>
      (List.nodup_append.mp hnodup).2.2 b hmem b (by simp) rfl
    obtain ⟨s₁, hadd, hrecs₁, hp, hl⟩ := hrecs.add (List.nodup_append.mp hnodup).1 hb
      (ie.item (s.pContent + payloadIeHeaderLen))
    have hp₁ : s₁.pContent = s.pContent + ie.encode.length := by
      rw [hp, ie.toNat_item, Ie.length_encode]
      show s.pContent + 2 + _ = _
      omega
    have hl₁ : s₁.lenContent.toNat = s.lenContent.toNat + ie.encode.length := by
      have hlt := contentLen.toNat_lt
      rw [hl, UInt16.toNat_add, UInt16.toNat_add, ie.toNat_item, Ie.length_encode]
      show (_ + (2 + _) % 65536) % 65536 = _
      omega
    have hbuf₁ : buf.drop s₁.pContent = (ieCode group).encodeAll ies ++ rest := by
      rw [hp₁, ← List.drop_drop, hbuf, List.drop_left]
    obtain ⟨s', hloop, hrecs', hp', hl'⟩ := ih hread.2 hrecs₁ (by simpa using hnodup) hbuf₁
      (by rw [hl₁, Ie.length_encode]; omega) (by simpa using hroom)
    refine ⟨s', ?_, ?_, ?_, ?_⟩
    · rw [ieLoop_item hround hadd, hloop]
      rfl
    · rw [hp₁] at hrecs'
      simpa [ieItems] using hrecs'
    · rw [hp', hp₁, hencode, List.length_append]
      omega
    · rw [hl', hl₁, hencode, List.length_append]
      omega

end Elements

end SensorCollector
