import SensorCollector.PayloadIe.Parse

set_option relaxedAutoImplicit false
set_option autoImplicit false

/-!
# What the parser accepts

The parser takes the elements that are there completely, and then looks at what is left: nothing,
the element that terminates a group, a short element in a group, a header whose contents go on
beyond the end, or half a header.

It does not compare the length in a header with what is left, so it takes an element that goes on
beyond the end as its last one. It counts the bytes it has gone over in sixteen bits: if the end of
such an element is too far away, it starts to count again and reads on beyond the end.

## Main definitions

* `SensorCollector.ieCutItem`, `SensorCollector.ieEnd` — what the parser makes of what is left.
* `SensorCollector.IeGroup` — a group of elements.

## Main results

* `SensorCollector.parsePayloadIEs_outcome` — the result for every input.
* `SensorCollector.parsePayloadIEs_frees` — no record is lost.
* `SensorCollector.payload_roundTrip` — groups that have been written are read back.
-/

namespace SensorCollector

variable {heap : IeHeap} {buf : List UInt8} {contentLen : UInt16} {group : Bool}
variable {blocks : List Addr}

/-! ## From the loop to the result -/

/-- The result of the parser with a list of records and a status: the list, or nothing if the status
is not success. -/
def ieResult (heap : IeHeap) (recs : List (Addr × ApiMacPayloadIeItem)) (status : ApiMacStatus) :
    IeHeap × Option Addr × ApiMacStatus :=
  if status = ApiMacStatus.success then
    (withRecords heap recs, recs.head?.map Prod.fst, ApiMacStatus.success)
  else (heap, none, status)

/-- The parser after its loop. -/
theorem parsePayloadIEs_of_loop {pContent : ℕ} (pList : Option Addr) (hne : contentLen ≠ 0)
    {s : IeParse} {status : ApiMacStatus}
    (hloop : ieLoop buf contentLen group blocks ⟨heap, none, none, pContent, 0⟩ =
      some (s, status))
    {recs : List (Addr × ApiMacPayloadIeItem)} (hrecs : s.HasRecords heap recs)
    (hfree : FreeBlocks heap (recs.map Prod.fst)) :
    parsePayloadIEs heap blocks buf (some pContent) contentLen pList group =
      some (ieResult heap recs status) := by
  have hfreed : freeIes UInt32.size s.heap s.pList = some heap := by
    rw [hrecs.heap_eq, hrecs.pList_eq]
    exact apiMacFreeIEList_withRecords hfree
  simp only [parsePayloadIEs, if_neg hne, hloop, Option.bind_eq_bind, Option.bind_some, hfreed]
  by_cases hstatus : status = ApiMacStatus.success
  · subst hstatus
    rw [if_neg (by simp), ieResult, if_pos rfl, ← hrecs.heap_eq, ← hrecs.pList_eq]
    rfl
  · rw [if_pos hstatus, ieResult, if_neg hstatus]
    rfl

/-- The parser reads beyond the block if its loop does. -/
theorem parsePayloadIEs_eq_none {pContent : ℕ} (pList : Option Addr) (hne : contentLen ≠ 0)
    (hloop : ieLoop buf contentLen group blocks ⟨heap, none, none, pContent, 0⟩ = none) :
    parsePayloadIEs heap blocks buf (some pContent) contentLen pList group = none := by
  simp [parsePayloadIEs, hne, hloop]

/-- Before the first round there are no records. -/
theorem hasRecords_start (pContent : ℕ) (lenContent : UInt16) :
    (⟨heap, none, none, pContent, lenContent⟩ : IeParse).HasRecords heap [] :=
  ⟨rfl, rfl, rfl⟩

/-- Blocks that are some of the free ones are free. -/
theorem FreeBlocks.sublist (h : FreeBlocks heap blocks) {bs : List Addr}
    (hsub : bs.Sublist blocks) : FreeBlocks heap bs :=
  ⟨h.nodup.sublist hsub, fun a ha => h.free a (hsub.subset ha)⟩

/-- The blocks of records are the first ones of those that are given. -/
theorem map_fst_zip_eq_take (blocks : List Addr) (items : List ApiMacPayloadIeItem) :
    (blocks.zip items).map Prod.fst = blocks.take items.length := by
  induction blocks generalizing items with
  | nil => simp
  | cons b blocks ih =>
    cases items with
    | nil => rfl
    | cons item items => simpa using ih items

/-- The blocks of records are free before there are records. -/
theorem FreeBlocks.zip (h : FreeBlocks heap blocks) (items : List ApiMacPayloadIeItem) :
    FreeBlocks heap ((blocks.zip items).map Prod.fst) := by
  rw [map_fst_zip_eq_take]
  exact h.sublist (List.take_sublist _ _)

/-- **No record is lost**: whatever the bytes are, if the parser fails then all records are freed
and the list is empty, unless it has not touched it at all; if it succeeds then `ApiMac_freeIEList`
frees all records.

**Proof sketch.** The loop keeps a list of records at different blocks that were free before. -/
theorem parsePayloadIEs_frees (hfree : FreeBlocks heap blocks) {pContent : Option ℕ}
    {pList : Option Addr} {heap' : IeHeap} {pList' : Option Addr} {status : ApiMacStatus}
    (hparse : parsePayloadIEs heap blocks buf pContent contentLen pList group =
      some (heap', pList', status)) :
    (status = ApiMacStatus.success → apiMacFreeIEList heap' pList' = some heap) ∧
      (status ≠ ApiMacStatus.success → heap' = heap ∧
        pList' = if status = ApiMacStatus.noData then pList else none) := by
  have hnodata : ApiMacStatus.noData ≠ ApiMacStatus.success := by decide
  cases pContent with
  | none =>
    cases hparse
    exact ⟨fun h => absurd h hnodata, fun _ => ⟨rfl, rfl⟩⟩
  | some pContent =>
    by_cases hne : contentLen = 0
    · rw [parsePayloadIEs, if_pos hne] at hparse
      cases hparse
      exact ⟨fun h => absurd h hnodata, fun _ => ⟨rfl, rfl⟩⟩
    cases hloop : ieLoop buf contentLen group blocks ⟨heap, none, none, pContent, 0⟩ with
    | none =>
      rw [parsePayloadIEs_eq_none pList hne hloop] at hparse
      cases hparse
    | some r =>
      obtain ⟨s, st⟩ := r
      obtain ⟨recs, hrecs, hpre⟩ := ieLoop_hasRecords (hasRecords_start pContent 0)
        (by simpa using hfree.nodup) hloop
      have hfree' : FreeBlocks heap (recs.map Prod.fst) := hfree.sublist hpre.sublist
      rw [parsePayloadIEs_of_loop pList hne hloop hrecs hfree'] at hparse
      by_cases hst : st = ApiMacStatus.success
      · rw [ieResult, if_pos hst] at hparse
        cases hparse
        exact ⟨fun _ => apiMacFreeIEList_withRecords hfree', fun h => absurd rfl h⟩
      · rw [ieResult, if_neg hst] at hparse
        cases hparse
        refine ⟨fun h => absurd h hst, fun _ => ⟨rfl, ?_⟩⟩
        rw [if_neg (ieLoop_ne_noData hloop)]

/-- A group with one element, and the element that terminates the groups. -/
def samplePayload : List UInt8 := [3, 136, 1, 0x21, 7, 0, 0xF8]

/-- No record is allocated. -/
def sampleHeap : IeHeap := fun _ => none

/-- Two blocks. -/
theorem sampleBlocks_free : FreeBlocks sampleHeap [100, 200] := ⟨by decide, by simp [sampleHeap]⟩

/-- The list for the sample payload is freed. -/
theorem parsePayloadIEs_frees_sample :
    ∃ heap' pList', parsePayloadIEs sampleHeap [100, 200] samplePayload (some 0) 7 none true =
        some (heap', pList', ApiMacStatus.success) ∧
      apiMacFreeIEList heap' pList' = some sampleHeap := by
  have hparse : parsePayloadIEs sampleHeap [100, 200] samplePayload (some 0) 7 none true =
      some (withRecords sampleHeap [(100, ⟨true, 1, 3, 2⟩)], some 100, ApiMacStatus.success) := rfl
  exact ⟨_, _, hparse, (parsePayloadIEs_frees sampleBlocks_free hparse).1 rfl⟩

/-! ## The result for every input -/

/-- The item that the parser makes of what is left after the complete elements, if it makes one: the
contents go on beyond the end. -/
def ieCutItem (group : Bool) (pContent : ℕ) : List UInt8 → List ApiMacPayloadIeItem
  | low :: high :: _ =>
    if IsRead group (headerLong high) (headerId high) then
      [headerItem low high (pContent + payloadIeHeaderLen)]
    else []
  | _ => []

/-- The status that the parser ends with at what is left after the complete elements, which take
`len` bytes. It reads beyond the end at half a header, and after contents that end too far away. -/
def ieEnd (group : Bool) (len : ℕ) : List UInt8 → Option ApiMacStatus
  | [] => some ApiMacStatus.success
  | [_] => none
  | low :: high :: _ =>
    if IsRead group (headerLong high) (headerId high) then
      if len + payloadIeHeaderLen + headerLen low high < UInt16.size then
        some ApiMacStatus.success
      else none
    else if headerLong high then some ApiMacStatus.success
    else some ApiMacStatus.unsupported

/-- The loop from its start over the complete elements, if there are blocks for all of them. -/
theorem ieLoop_complete {ies : List Ie} (hread : ∀ ie ∈ ies, IsRead group ie.typeLong ie.id)
    {pContent : ℕ} {rest : List UInt8} (hfree : FreeBlocks heap blocks)
    (hbuf : buf.drop pContent = (ieCode group).encodeAll ies ++ rest)
    (hlen : ((ieCode group).encodeAll ies).length ≤ contentLen.toNat)
    (hroom : ies.length ≤ blocks.length) :
    ∃ s, ieLoop buf contentLen group blocks ⟨heap, none, none, pContent, 0⟩ =
        ieLoop buf contentLen group (blocks.drop ies.length) s ∧
      s.HasRecords heap (blocks.zip (ieItems pContent ies)) ∧
      s.pContent = pContent + ((ieCode group).encodeAll ies).length ∧
      s.lenContent.toNat = ((ieCode group).encodeAll ies).length := by
  let s₀ : IeParse := ⟨heap, none, none, pContent, 0⟩
  have hrecs₀ : s₀.HasRecords heap [] := hasRecords_start pContent 0
  have hlen₀ : s₀.lenContent.toNat + ((ieCode group).encodeAll ies).length ≤ contentLen.toNat := by
    show 0 + _ ≤ _
    omega
  obtain ⟨s, hloop, hrecs, hp, hl⟩ := ieLoop_elements hread hrecs₀ (by simpa using hfree.nodup)
    hbuf hlen₀ hroom
  refine ⟨s, hloop, by simpa using hrecs, hp, ?_⟩
  rw [hl]
  exact Nat.zero_add _

/-- If there are too few blocks for the complete elements, the loop ends for want of a block. -/
theorem ieLoop_noRoom {ies : List Ie} (hread : ∀ ie ∈ ies, IsRead group ie.typeLong ie.id)
    {pContent : ℕ} {rest : List UInt8} (hfree : FreeBlocks heap blocks)
    (hbuf : buf.drop pContent = (ieCode group).encodeAll ies ++ rest)
    (hlen : ((ieCode group).encodeAll ies).length ≤ contentLen.toNat)
    (hroom : blocks.length < ies.length) :
    ∃ s recs, ieLoop buf contentLen group blocks ⟨heap, none, none, pContent, 0⟩ =
        some (s, ApiMacStatus.noResources) ∧ s.HasRecords heap recs ∧
      FreeBlocks heap (recs.map Prod.fst) := by
  -- the elements for which there are blocks, and the one after them
  obtain ⟨xs, ie, ys, rfl, hxs⟩ : ∃ xs ie ys, ies = xs ++ ie :: ys ∧ xs.length = blocks.length :=
    ⟨ies.take blocks.length, ies[blocks.length], ies.drop (blocks.length + 1), by simp,
      by simp; omega⟩
  have hencode : (ieCode group).encodeAll (xs ++ ie :: ys) =
      (ieCode group).encodeAll xs ++ (ie.encode ++ (ieCode group).encodeAll ys) := by
    rw [PrefixCode.encodeAll, List.flatMap_append]
    rfl
  rw [hencode, List.append_assoc] at hbuf
  rw [hencode, List.length_append, List.length_append, Ie.length_encode] at hlen
  rw [List.forall_mem_append, List.forall_mem_cons] at hread
  obtain ⟨s, hloop, hrecs, hp, hl⟩ := ieLoop_complete hread.1 hfree hbuf
    (show _ ≤ contentLen.toNat by omega) hxs.le
  have hbuf' : buf.drop s.pContent = ie.encode ++ ((ieCode group).encodeAll ys ++ rest) := by
    rw [hp, ← List.drop_drop, hbuf, List.drop_left, List.append_assoc]
  have hround := ieRound_element hread.2.1 hbuf'
    (show s.lenContent.toNat < contentLen.toNat by omega)
  refine ⟨s, _, ?_, hrecs, hfree.zip _⟩
  rw [hloop, hxs, List.drop_length, ieLoop_noBlock hround]

/-! ### The last rounds -/

section Rest

variable {s : IeParse} {recs : List (Addr × ApiMacPayloadIeItem)} {rest : List UInt8}

/-- A byte of what is left. -/
theorem getElem?_of_drop (hbuf : buf.drop s.pContent = rest) (i : ℕ) :
    buf[s.pContent + i]? = rest[i]? := by
  rw [← hbuf, List.getElem?_drop]

/-- The round at a header in what is left. -/
theorem ieRound_rest (group : Bool) {low high : UInt8} {r : List UInt8}
    (hbuf : buf.drop s.pContent = low :: high :: r)
    (hlen : s.lenContent.toNat + (low :: high :: r).length = contentLen.toNat) :
    ieRound buf contentLen group s.pContent s.lenContent =
      some (if IsRead group (headerLong high) (headerId high) then
          .item (headerItem low high (s.pContent + payloadIeHeaderLen))
        else if headerLong high then .done ApiMacStatus.success
        else .done ApiMacStatus.unsupported) := by
  have hlt : s.lenContent.toNat < contentLen.toNat := by
    rw [← hlen]
    simp
  have hlow : buf[s.pContent]? = some low := getElem?_of_drop hbuf 0
  exact ieRound_header hlt hlow (getElem?_of_drop hbuf 1)

/-- At a rest of which no item is made, the loop ends in its next round. -/
theorem ieLoop_noCut (hbuf : buf.drop s.pContent = rest)
    (hlen : s.lenContent.toNat + rest.length = contentLen.toNat)
    (hcut : ieCutItem group s.pContent rest = []) :
    ieLoop buf contentLen group blocks s =
      (ieEnd group s.lenContent.toNat rest).map fun status => (s, status) := by
  match rest, hbuf, hlen, hcut with
  | [], hbuf, hlen, hcut =>
    have hend : contentLen.toNat ≤ s.lenContent.toNat := by
      rw [← hlen]
      simp
    rw [ieLoop_done (ieRound_end hend)]
    rfl
  | [b], hbuf, hlen, hcut =>
    have hlt : s.lenContent.toNat < contentLen.toNat := by
      rw [← hlen]
      simp
    rw [ieLoop_outside (ieRound_outside hlt (getElem?_of_drop hbuf 1))]
    rfl
  | low :: high :: r, hbuf, hlen, hcut =>
    have hread : ¬ IsRead group (headerLong high) (headerId high) := by
      intro h
      simp [ieCutItem, h] at hcut
    have hround := ieRound_rest group hbuf hlen
    rw [if_neg hread] at hround
    rw [ieEnd, if_neg hread]
    cases hlong : headerLong high with
    | true =>
      rw [hlong, if_pos rfl] at hround
      exact ieLoop_done hround
    | false =>
      rw [hlong, if_neg (by decide)] at hround
      exact ieLoop_done hround

/-- At a header whose contents go on beyond the end, the loop makes a record. It then ends in its
next round, or reads beyond the end. -/
theorem ieLoop_cut {low high : UInt8} {r : List UInt8} {b : Addr}
    (hbuf : buf.drop s.pContent = low :: high :: r)
    (hlen : s.lenContent.toNat + (low :: high :: r).length = contentLen.toNat)
    (hread : IsRead group (headerLong high) (headerId high))
    (hstuck : (ieCode group).next (low :: high :: r) = none)
    (hrecs : s.HasRecords heap recs) (hnodup : (recs.map Prod.fst ++ b :: blocks).Nodup) :
    ∃ s', s'.HasRecords heap
        (recs ++ [(b, headerItem low high (s.pContent + payloadIeHeaderLen))]) ∧
      ieLoop buf contentLen group (b :: blocks) s =
        (ieEnd group s.lenContent.toNat (low :: high :: r)).map fun status => (s', status) := by
  have hlong : r.length < headerLen low high := by
    by_contra hle
    have hnext : nextIe group (low :: high :: r) = none := hstuck
    rw [nextIe, dif_pos ⟨hread, not_lt.mp hle⟩] at hnext
    cases hnext
  have hsmall : headerLen low high < 2048 := by
    refine lt_of_lt_of_le (headerLen_lt low high) ?_
    split <;> decide
  have hb : b ∉ recs.map Prod.fst := fun hmem =>
    (List.nodup_append.mp hnodup).2.2 b hmem b (by simp) rfl
  obtain ⟨s', hadd, hrecs', hp, hl⟩ := hrecs.add (List.nodup_append.mp hnodup).1 hb
    (headerItem low high (s.pContent + payloadIeHeaderLen))
  refine ⟨s', hrecs', ?_⟩
  have hitem : (headerItem low high (s.pContent + payloadIeHeaderLen)).ieContentLen.toNat =
      headerLen low high := by
    show (UInt16.ofNat (headerLen low high)).toNat = _
    rw [UInt16.toNat_ofNat', Nat.mod_eq_of_lt (by omega)]
  have hbuflen : buf.length = s.pContent + (r.length + 2) := by
    have hdrop := congrArg List.length hbuf
    simp only [List.length_drop, List.length_cons] at hdrop
    omega
  have hp' : s'.pContent = s.pContent + 2 + headerLen low high := by
    rw [hp, hitem]
    rfl
  have hl' : s'.lenContent.toNat = (s.lenContent.toNat + (2 + headerLen low high)) % 65536 := by
    rw [hl, UInt16.toNat_add, UInt16.toNat_add, hitem]
    show (_ + (2 + _) % 65536) % 65536 = _
    omega
  have hround := ieRound_rest group hbuf hlen
  rw [if_pos hread] at hround
  rw [ieLoop_item hround hadd, ieEnd, if_pos hread]
  simp only [List.length_cons] at hlen
  have hcl := contentLen.toNat_lt
  by_cases hfit : s.lenContent.toNat + payloadIeHeaderLen + headerLen low high < UInt16.size
  · rw [if_pos hfit]
    have hfit' : s.lenContent.toNat + 2 + headerLen low high < 65536 := hfit
    exact ieLoop_done (ieRound_end (by rw [hl']; omega))
  · rw [if_neg hfit]
    -- the count has started again, but the pointer is past the end
    have hfit' : ¬ s.lenContent.toNat + 2 + headerLen low high < 65536 := hfit
    have hlt : s'.lenContent.toNat < contentLen.toNat := by
      rw [hl']
      omega
    have hout : buf[s'.pContent + 1]? = none := by
      rw [List.getElem?_eq_none_iff, hp', hbuflen]
      omega
    exact ieLoop_outside (ieRound_outside hlt hout)

end Rest

/-- One more block for one more item. -/
theorem zip_concat {items : List ApiMacPayloadIeItem} {item : ApiMacPayloadIeItem} {b : Addr}
    {bs : List Addr} (h : blocks.drop items.length = b :: bs) :
    blocks.zip (items ++ [item]) = blocks.zip items ++ [(b, item)] := by
  induction items generalizing blocks with
  | nil =>
    obtain rfl : blocks = b :: bs := h
    simp
  | cons i items ih =>
    cases blocks with
    | nil => cases h
    | cons c blocks =>
      simp only [List.cons_append, List.zip_cons_cons, List.cons.injEq, true_and]
      exact ih h

/-- An item is made of a rest only if it is a header that is read. -/
theorem ieCutItem_ne_nil {pContent : ℕ} {rest : List UInt8}
    (h : ieCutItem group pContent rest ≠ []) :
    ∃ low high r, rest = low :: high :: r ∧ IsRead group (headerLong high) (headerId high) := by
  match rest, h with
  | [], h => exact absurd rfl h
  | [_], h => exact absurd rfl h
  | low :: high :: r, h =>
    refine ⟨low, high, r, rfl, ?_⟩
    by_contra hread
    simp [ieCutItem, hread] at h

/-- **The result of the parser** for bytes at the end of a block. They are the elements `ies`, which
are complete, and a rest.

* If there are too few blocks for the records, the parser fails for want of one.
* Otherwise it ends as the rest says: with a list of all elements, with a failure, or with a read
  beyond the end.

**Proof sketch.** The loop goes over the complete elements. At the rest there is one more round, or
two if there is an item for contents that go on beyond the end. After these the count is either past
the number of bytes, or has started again; then the next header is read beyond the end. -/
theorem parsePayloadIEs_eq {before bytes rest : List UInt8} {ies : List Ie}
    (hfree : FreeBlocks heap blocks) (hsplit : (ieCode group).Splits bytes ies rest)
    (hne : bytes ≠ []) (hlen : bytes.length < UInt16.size) (pList : Option Addr) :
    let len := ((ieCode group).encodeAll ies).length
    let items := ieItems before.length ies ++ ieCutItem group (before.length + len) rest
    parsePayloadIEs heap blocks (before ++ bytes) (some before.length) (UInt16.ofNat bytes.length)
        pList group =
      if blocks.length < items.length then some (heap, none, ApiMacStatus.noResources)
      else (ieEnd group len rest).map (ieResult heap (blocks.zip items)) := by
  intro len items
  have hcl : (UInt16.ofNat bytes.length).toNat = bytes.length := by
    rw [UInt16.toNat_ofNat', Nat.mod_eq_of_lt hlen]
  have hpos : 0 < bytes.length := List.length_pos_iff.mpr hne
  have hne' : UInt16.ofNat bytes.length ≠ 0 := by
    intro h
    rw [← UInt16.toNat_inj, hcl] at h
    exact absurd h hpos.ne'
  have hbuf : (before ++ bytes).drop before.length = (ieCode group).encodeAll ies ++ rest := by
    rw [List.drop_left, hsplit.eq]
  have hbytes : bytes.length = len + rest.length := by
    rw [hsplit.eq, List.length_append]
  by_cases hroom : blocks.length < ies.length
  · -- there are too few blocks for the complete elements
    have hitems : blocks.length < items.length := by
      rw [List.length_append, length_ieItems]
      omega
    obtain ⟨s, recs, hloop, hrecs, hfree'⟩ := ieLoop_noRoom hsplit.admits hfree hbuf
      (by rw [hcl]; omega) hroom
    rw [if_pos hitems, parsePayloadIEs_of_loop pList hne' hloop hrecs hfree']
    rfl
  · rw [not_lt] at hroom
    obtain ⟨s, hloop, hrecs, hp, hl⟩ := ieLoop_complete hsplit.admits hfree hbuf
      (show _ ≤ (UInt16.ofNat bytes.length).toNat by rw [hcl]; omega) hroom
    have hbuf' : (before ++ bytes).drop s.pContent = rest := by
      rw [hp, ← List.drop_drop, hbuf, List.drop_left]
    have hlen' : s.lenContent.toNat + rest.length = (UInt16.ofNat bytes.length).toNat := by
      rw [hl, hcl, hbytes]
    by_cases hcut : ieCutItem group (before.length + len) rest = []
    · -- the loop ends at the rest
      have hitems : items = ieItems before.length ies := by
        show _ ++ _ = _
        rw [hcut, List.append_nil]
      have hend : ieLoop (before ++ bytes) _ group (blocks.drop ies.length) s = _ :=
        ieLoop_noCut hbuf' hlen' (hp ▸ hcut)
      rw [← hloop, hl] at hend
      rw [hitems, length_ieItems, if_neg (by omega)]
      cases hst : ieEnd group len rest with
      | none =>
        rw [hst] at hend
        exact parsePayloadIEs_eq_none pList hne' hend
      | some status =>
        rw [hst] at hend
        exact parsePayloadIEs_of_loop pList hne' hend hrecs
          (hfree.zip _)
    · -- there is one more item
      obtain ⟨low, high, r, rfl, hread⟩ := ieCutItem_ne_nil hcut
      have hitems : items = ieItems before.length ies ++
          [headerItem low high (s.pContent + payloadIeHeaderLen)] := by
        show _ ++ ieCutItem _ _ _ = _
        rw [ieCutItem, if_pos hread, hp]
      cases hdrop : blocks.drop ies.length with
      | nil =>
        have hround := ieRound_rest group hbuf' hlen'
        rw [if_pos hread] at hround
        rw [hdrop, ieLoop_noBlock hround] at hloop
        have hle : blocks.length ≤ ies.length := List.drop_eq_nil_iff.mp hdrop
        rw [hitems, List.length_append, length_ieItems, List.length_singleton,
          if_pos (by omega)]
        rw [parsePayloadIEs_of_loop pList hne' hloop hrecs
          (hfree.zip _)]
        rfl
      | cons b bs =>
        have hlt : ies.length < blocks.length := by
          by_contra hle
          rw [List.drop_eq_nil_iff.mpr (by omega)] at hdrop
          cases hdrop
        have hzip : blocks.zip items = blocks.zip (ieItems before.length ies) ++
            [(b, headerItem low high (s.pContent + payloadIeHeaderLen))] := by
          rw [hitems, zip_concat (by rw [length_ieItems, hdrop])]
        have hnodup : ((blocks.zip (ieItems before.length ies)).map Prod.fst ++ b :: bs).Nodup := by
          rw [map_fst_zip_eq_take, length_ieItems, ← hdrop, List.take_append_drop]
          exact hfree.nodup
        obtain ⟨s', hrecs', hend⟩ := ieLoop_cut hbuf' hlen' hread hsplit.stuck hrecs hnodup
        rw [← hdrop, ← hloop, hl] at hend
        rw [← hzip] at hrecs'
        have hroom : ¬ blocks.length < items.length := by
          rw [hitems, List.length_append, length_ieItems, List.length_singleton]
          omega
        rw [if_neg hroom]
        cases hst : ieEnd group len (low :: high :: r) with
        | none =>
          rw [hst] at hend
          exact parsePayloadIEs_eq_none pList hne' hend
        | some status =>
          rw [hst] at hend
          exact parsePayloadIEs_of_loop pList hne' hend hrecs'
            (hfree.zip _)

-- the last element of the sample payload ends beyond the end, if some bytes are not there
example :
    parsePayloadIEs sampleHeap [100, 200] [3, 136, 1, 0x21] (some 0) 4 none true =
      some (withRecords sampleHeap [(100, ⟨true, 1, 3, 2⟩)], some 100, ApiMacStatus.success) :=
  @parsePayloadIEs_eq sampleHeap true [100, 200] [] [3, 136, 1, 0x21] [3, 136, 1, 0x21] []
    sampleBlocks_free (PrefixCode.splits_nil.mpr rfl) (by decide) (by decide) none

/-- The result that the format gives for the elements at the front of the bytes and the rest. -/
def ieOutcome (heap : IeHeap) (blocks : List Addr) (group : Bool) (pContent : ℕ) (ies : List Ie)
    (rest : List UInt8) : Option (IeHeap × Option Addr × ApiMacStatus) :=
  let len := ((ieCode group).encodeAll ies).length
  let items := ieItems pContent ies ++ ieCutItem group (pContent + len) rest
  if blocks.length < items.length then some (heap, none, ApiMacStatus.noResources)
  else (ieEnd group len rest).map (ieResult heap (blocks.zip items))

/-- **The outcome of the parser.** Every input is made of complete elements and a rest, in one way
only, and the result of the parser is the one that the format gives for them.

**Proof sketch.** Inputs split in exactly one way, since the elements are a prefix code. -/
theorem parsePayloadIEs_outcome {before bytes : List UInt8} (hfree : FreeBlocks heap blocks)
    (hne : bytes ≠ []) (hlen : bytes.length < UInt16.size) (pList : Option Addr) (group : Bool) :
    ∃ ies rest, (ieCode group).Splits bytes ies rest ∧
      (∀ ies' rest', (ieCode group).Splits bytes ies' rest' → ies' = ies ∧ rest' = rest) ∧
      parsePayloadIEs heap blocks (before ++ bytes) (some before.length)
          (UInt16.ofNat bytes.length) pList group =
        ieOutcome heap blocks group before.length ies rest := by
  obtain ⟨ies, rest, hsplit⟩ := (ieCode group).exists_splits bytes
  exact ⟨ies, rest, hsplit, fun ies' rest' hsplit' => hsplit'.unique hsplit,
    parsePayloadIEs_eq hfree hsplit hne hlen pList⟩

/-- The outcome for the sample payload without its last bytes. -/
theorem parsePayloadIEs_outcome_sample :
    ∃ ies rest, (ieCode true).Splits [3, 136, 1, 0x21] ies rest ∧
      (∀ ies' rest', (ieCode true).Splits [3, 136, 1, 0x21] ies' rest' →
        ies' = ies ∧ rest' = rest) ∧
      parsePayloadIEs sampleHeap [100, 200] [3, 136, 1, 0x21] (some 0) 4 none true =
        ieOutcome sampleHeap [100, 200] true 0 ies rest :=
  @parsePayloadIEs_outcome sampleHeap [100, 200] [] [3, 136, 1, 0x21] sampleBlocks_free
    (by decide) (by decide) none true

/-! ## Round trips -/

/-- An item says where an element is. -/
structure ApiMacPayloadIeItem.Holds (item : ApiMacPayloadIeItem) (buf : List UInt8) (ie : Ie) :
    Prop where
  typeLong_eq : item.ieTypeLong = ie.typeLong
  id_eq : item.ieId.toNat = ie.id
  len_eq : item.ieContentLen.toNat = ie.content.length
  content_eq : (buf.drop item.pIEContent).take item.ieContentLen.toNat = ie.content

/-- The items for elements that are one after the other say where they are. -/
theorem ieItems_holds {ies : List Ie} {pContent : ℕ} {rest : List UInt8}
    (hbuf : buf.drop pContent = (ieCode group).encodeAll ies ++ rest) :
    List.Forall₂ (fun item ie => item.Holds buf ie) (ieItems pContent ies) ies := by
  induction ies generalizing pContent with
  | nil => exact List.Forall₂.nil
  | cons ie ies ih =>
    have hbuf' : buf.drop pContent = ie.encode ++ ((ieCode group).encodeAll ies ++ rest) := by
      rw [hbuf, PrefixCode.encodeAll_cons, List.append_assoc]
      rfl
    refine List.Forall₂.cons ⟨rfl, ?_, ie.toNat_item _, ?_⟩ (ih ?_)
    · have hid : ie.id < 128 := by
        refine lt_of_lt_of_le ie.id_lt ?_
        split <;> decide
      show (UInt8.ofNat ie.id).toNat = ie.id
      rw [UInt8.toNat_ofNat', Nat.mod_eq_of_lt (by omega)]
    · rw [ie.toNat_item]
      show (buf.drop (pContent + payloadIeHeaderLen)).take _ = _
      rw [← List.drop_drop, hbuf']
      exact List.take_left
    · rw [← List.drop_drop, hbuf', List.drop_left]

/-- The bytes end after the elements, or there the element that terminates a group begins. -/
def EndsAfter (group : Bool) (len : ℕ) (contentLen : UInt16) (rest : List UInt8) : Prop :=
  len = contentLen.toNat ∨ len < contentLen.toNat ∧ group = true ∧
    ∃ term : Ie, term.typeLong = true ∧ term.id = payloadIEGroupTerm.toNat ∧
      term.encode <+: rest

/-- The round after the elements. -/
theorem ieRound_after {s : IeParse} {rest : List UInt8} (hbuf : buf.drop s.pContent = rest)
    (hend : EndsAfter group s.lenContent.toNat contentLen rest) :
    ieRound buf contentLen group s.pContent s.lenContent =
      some (.done ApiMacStatus.success) := by
  obtain hlen | ⟨hlt, rfl, term, hlong, hid, r, rfl⟩ := hend
  · exact ieRound_end hlen.ge
  · have hlow : buf[s.pContent]? = some (UInt8.ofNat term.content.length) :=
      getElem?_of_drop hbuf 0
    have hnot : ¬ IsRead true term.typeLong term.id := fun h => (h rfl).2 hid
    rw [ieRound_header hlt hlow (getElem?_of_drop hbuf 1), headerLong_high, headerId_high,
      if_neg hnot, if_pos hlong]

/-- **Elements that have been written are read back.** -/
theorem parsePayloadIEs_elements {ies : List Ie} {pContent : ℕ} {rest : List UInt8}
    (hread : ∀ ie ∈ ies, IsRead group ie.typeLong ie.id) (hfree : FreeBlocks heap blocks)
    (hbuf : buf.drop pContent = (ieCode group).encodeAll ies ++ rest)
    (hend : EndsAfter group ((ieCode group).encodeAll ies).length contentLen rest)
    (hne : contentLen ≠ 0) (hroom : ies.length ≤ blocks.length) (pList : Option Addr) :
    ∃ recs, parsePayloadIEs heap blocks buf (some pContent) contentLen pList group =
        some (withRecords heap recs, recs.head?.map Prod.fst, ApiMacStatus.success) ∧
      recs = blocks.zip (ieItems pContent ies) := by
  have hlen : ((ieCode group).encodeAll ies).length ≤ contentLen.toNat := by
    obtain h | h := hend
    · exact h.le
    · exact h.1.le
  obtain ⟨s, hloop, hrecs, hp, hl⟩ := ieLoop_complete hread hfree hbuf hlen hroom
  have hbuf' : buf.drop s.pContent = rest := by
    rw [hp, ← List.drop_drop, hbuf, List.drop_left]
  rw [ieLoop_done (ieRound_after hbuf' (hl ▸ hend))] at hloop
  refine ⟨_, ?_, rfl⟩
  rw [parsePayloadIEs_of_loop pList hne hloop hrecs (hfree.zip _)]
  rfl

/-- A group of elements: what is in it are short or long elements, and it does not terminate the
groups. -/
structure IeGroup where
  id : ℕ
  subs : List Ie
  id_lt : id < payloadIEGroupTerm.toNat
  length_lt : ((ieCode false).encodeAll subs).length < 2048

/-- The element for a group. -/
def IeGroup.ie (g : IeGroup) : Ie where
  typeLong := true
  id := g.id
  content := (ieCode false).encodeAll g.subs
  id_lt := lt_of_lt_of_le g.id_lt (by decide)
  length_lt := g.length_lt

/-- The records for items hold what the items do. -/
theorem forall₂_zip {γ : Type} {R : ApiMacPayloadIeItem → γ → Prop}
    {items : List ApiMacPayloadIeItem} {cs : List γ} (h : List.Forall₂ R items cs)
    (hroom : items.length ≤ blocks.length) :
    List.Forall₂ (fun r c => R r.2 c) (blocks.zip items) cs := by
  have hmap : (blocks.zip items).map Prod.snd = items := List.map_snd_zip hroom
  rw [← hmap] at h
  exact List.forall₂_map_left_iff.mp h

/-- An item says where a group is, and `ApiMac_parsePayloadSubIEs` makes a list of the elements of
the group from the contents of the item. For an empty group it answers that there is no data. -/
def ReadsGroup (buf : List UInt8) (item : ApiMacPayloadIeItem) (g : IeGroup) : Prop :=
  item.Holds buf g.ie ∧
    (g.subs ≠ [] → ∀ heap blocks pList, FreeBlocks heap blocks → g.subs.length ≤ blocks.length →
      ∃ recs, apiMacParsePayloadSubIEs heap blocks buf (some item.pIEContent) item.ieContentLen
          pList = some (withRecords heap recs, recs.head?.map Prod.fst, ApiMacStatus.success) ∧
        List.Forall₂ (fun r ie => r.2.Holds buf ie) recs g.subs) ∧
    (g.subs = [] → ∀ heap blocks pList,
      apiMacParsePayloadSubIEs heap blocks buf (some item.pIEContent) item.ieContentLen pList =
        some (heap, pList, ApiMacStatus.noData))

/-- Where a group is, its elements are read. -/
theorem ApiMacPayloadIeItem.Holds.readsGroup {item : ApiMacPayloadIeItem} {g : IeGroup}
    (hitem : item.Holds buf g.ie) : ReadsGroup buf item g := by
  have hlen : ((ieCode false).encodeAll g.subs).length = item.ieContentLen.toNat :=
    hitem.len_eq.symm
  refine ⟨hitem, fun hsubs heap blocks pList hfree hroom => ?_, fun hsubs heap blocks pList => ?_⟩
  · have hcontent : buf.drop item.pIEContent = (ieCode false).encodeAll g.subs ++
        (buf.drop item.pIEContent).drop item.ieContentLen.toNat := by
      have heq : (buf.drop item.pIEContent).take item.ieContentLen.toNat =
          (ieCode false).encodeAll g.subs := hitem.content_eq
      rw [← heq, List.take_append_drop]
    have hne : item.ieContentLen ≠ 0 := by
      intro h0
      rw [h0] at hlen
      obtain ⟨ie, ies, hcons⟩ := List.exists_cons_of_ne_nil hsubs
      rw [hcons, PrefixCode.encodeAll_cons, List.length_append] at hlen
      have hpos : ((ieCode false).encode ie).length = ie.content.length + 2 := ie.length_encode
      have hzero : (0 : UInt16).toNat = 0 := rfl
      omega
    obtain ⟨recs, hparse, rfl⟩ := parsePayloadIEs_elements (fun _ _ h => absurd h (by decide))
      hfree hcontent (Or.inl hlen) hne hroom pList
    refine ⟨_, hparse, forall₂_zip (ieItems_holds hcontent) ?_⟩
    rw [length_ieItems]
    exact hroom
  · -- nothing in the group, so the length of the contents is zero
    have hzero : item.ieContentLen = 0 := by
      refine UInt16.toNat_inj.mp ?_
      rw [← hlen, hsubs]
      rfl
    rw [apiMacParsePayloadSubIEs, parsePayloadIEs, if_pos hzero]

/-- **Groups that have been written are read back**, with what is in them: the list of
`ApiMac_parsePayloadGroupIEs` has one record for each group, and from the contents of that record
`ApiMac_parsePayloadSubIEs` makes a list with one record for each element of the group, or answers
that there is no data if the group is empty.

**Proof sketch.** Both are the same loop over complete elements. The contents of a group are where
its record says, so the inner loop has them before it. -/
theorem payload_roundTrip {groups : List IeGroup} {pPayload : ℕ} {rest : List UInt8}
    {payloadLen : UInt16} (hfree : FreeBlocks heap blocks)
    (hbuf : buf.drop pPayload = (ieCode true).encodeAll (groups.map IeGroup.ie) ++ rest)
    (hend : EndsAfter true ((ieCode true).encodeAll (groups.map IeGroup.ie)).length payloadLen
      rest)
    (hne : payloadLen ≠ 0) (hroom : groups.length ≤ blocks.length) (pList : Option Addr) :
    ∃ recs, apiMacParsePayloadGroupIEs heap blocks buf (some pPayload) payloadLen pList =
        some (withRecords heap recs, recs.head?.map Prod.fst, ApiMacStatus.success) ∧
      List.Forall₂ (fun r g => ReadsGroup buf r.2 g) recs groups := by
  have hread : ∀ ie ∈ groups.map IeGroup.ie, IsRead true ie.typeLong ie.id := by
    intro ie hie
    obtain ⟨g, -, rfl⟩ := List.mem_map.mp hie
    exact fun _ => ⟨rfl, g.id_lt.ne⟩
  obtain ⟨recs, hparse, rfl⟩ := parsePayloadIEs_elements hread hfree hbuf hend hne
    (by simpa using hroom) pList
  refine ⟨_, hparse, forall₂_zip ?_ ?_⟩
  · exact (List.forall₂_map_right_iff.mp (ieItems_holds hbuf)).imp fun _ _ hitem =>
      hitem.readsGroup
  · rw [length_ieItems, List.length_map]
    exact hroom

/-- What is read of elements: the items have the types, the identifiers and the contents. -/
theorem map_items_of_holds {recs : List (Addr × ApiMacPayloadIeItem)} {ies : List Ie}
    (h : List.Forall₂ (fun r ie => r.2.Holds buf ie) recs ies) :
    recs.map (fun r => (r.2.ieTypeLong, r.2.ieId.toNat,
        (buf.drop r.2.pIEContent).take r.2.ieContentLen.toNat)) =
      ies.map fun ie => (ie.typeLong, ie.id, ie.content) := by
  induction h with
  | nil => rfl
  | cons hitem _ ih =>
    rw [List.map_cons, List.map_cons, ih, hitem.typeLong_eq, hitem.id_eq, hitem.content_eq]

/-- A group with a short element and a long one. -/
def sampleGroup : IeGroup :=
  ⟨1, [⟨false, 0x21, [7], by decide, by decide⟩, ⟨true, 3, [8, 9], by decide, by decide⟩],
    by decide, by decide⟩

/-- A group with two short elements, the first of which has no contents. -/
def otherGroup : IeGroup :=
  ⟨2, [⟨false, 0x22, [], by decide, by decide⟩, ⟨false, 0x23, [5], by decide, by decide⟩],
    by decide, by decide⟩

/-- The two groups, and the element that terminates the groups. -/
def groupsPayload : List UInt8 :=
  [7, 136, 1, 0x21, 7, 2, 152, 8, 9, 5, 144, 0, 0x22, 1, 0x23, 5, 0, 0xF8]

/-- Two groups are read back, and then the two elements of each of them. -/
theorem payload_roundTrip_sample :
    ∃ recs, apiMacParsePayloadGroupIEs sampleHeap [100, 200] groupsPayload (some 0) 18 none =
        some (withRecords sampleHeap recs, recs.head?.map Prod.fst, ApiMacStatus.success) ∧
      recs.map (fun r => r.2.ieId.toNat) = [1, 2] ∧
      List.Forall₂ (fun r subs => ∃ recs',
          apiMacParsePayloadSubIEs sampleHeap [300, 400] groupsPayload (some r.2.pIEContent)
              r.2.ieContentLen none =
            some (withRecords sampleHeap recs', recs'.head?.map Prod.fst, ApiMacStatus.success) ∧
          recs'.map (fun r => (r.2.ieTypeLong, r.2.ieId.toNat,
            (groupsPayload.drop r.2.pIEContent).take r.2.ieContentLen.toNat)) = subs) recs
        [[(false, 0x21, [7]), (true, 3, [8, 9])], [(false, 0x22, []), (false, 0x23, [5])]] := by
  have hend : EndsAfter true 16 18 [0, 0xF8] :=
    Or.inr ⟨by decide, rfl, ⟨true, 15, [], by decide, by decide⟩, rfl, rfl, [], rfl⟩
  have hbuf : groupsPayload.drop 0 =
      (ieCode true).encodeAll ([sampleGroup, otherGroup].map IeGroup.ie) ++ [0, 0xF8] := rfl
  have hsubs : FreeBlocks sampleHeap [300, 400] := ⟨by decide, by simp [sampleHeap]⟩
  obtain ⟨recs, hparse, hrecs⟩ := payload_roundTrip sampleBlocks_free hbuf hend (by decide)
    (by decide) none
  refine ⟨recs, hparse, ?_⟩
  cases hrecs with
  | cons h₁ htail =>
    cases htail with
    | cons h₂ hnil =>
      cases hnil
      obtain ⟨hitem₁, hsubs₁, -⟩ := h₁
      obtain ⟨hitem₂, hsubs₂, -⟩ := h₂
      obtain ⟨recs₁, hparse₁, hrecs₁⟩ := hsubs₁ (by decide) _ _ none hsubs (by decide)
      obtain ⟨recs₂, hparse₂, hrecs₂⟩ := hsubs₂ (by decide) _ _ none hsubs (by decide)
      refine ⟨?_, .cons ⟨recs₁, hparse₁, ?_⟩ (.cons ⟨recs₂, hparse₂, ?_⟩ .nil)⟩
      · rw [List.map_cons, List.map_cons, hitem₁.id_eq, hitem₂.id_eq]
        rfl
      · exact map_items_of_holds hrecs₁
      · exact map_items_of_holds hrecs₂

end SensorCollector
