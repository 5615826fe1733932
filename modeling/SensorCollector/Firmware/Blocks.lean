import SensorCollector.Firmware.Defs
import SensorCollector.Lib.Ownership

set_option relaxedAutoImplicit false
set_option autoImplicit false

/-!
# The blocks of a message

`MAC_CbackEvent` and the end of `ApiMac_processIncoming` as operations on the ownership of blocks.
The first makes a message: its block and what it points to go over from the MAC. The second frees
them.

No block ever has a destination in its header, so `OsalPort_msgDeallocate` never refuses to free
one.

## Main definitions

* `SensorCollector.blocks` — the blocks of a message.
* `SensorCollector.Made` — what the first part of `MAC_CbackEvent` has done.

## Main results

* `SensorCollector.cbackMessage_spec`, `SensorCollector.macCbackEvent_eq_none` — when
  `MAC_CbackEvent` is defined, and what its first part does.
* `SensorCollector.freeAttached_spec`, `SensorCollector.msgDeallocate_spec` — the end of
  `ApiMac_processIncoming`.
-/

namespace SensorCollector

open Ownership

/-- A message and the address of its block. -/
abbrev Boxed := Addr × MacCbackMsg

/-- The blocks of a message: the one it is in and what it points to. -/
def blocks (x : Boxed) : List Addr := x.1 :: x.2.event.attached

/-- A message points to one block at most. -/
theorem length_attached_le (event : MacCbackEvent) : event.attached.length ≤ 1 := by
  cases event with
  | scanCnf result => cases result <;> simp [MacCbackEvent.attached]
  | dataCnf pDataReq => cases pDataReq <;> simp [MacCbackEvent.attached]
  | _ => simp [MacCbackEvent.attached]

/-! ## Headers without a destination -/

/-- A new block without a destination. -/
theorem Heap.NoDest.update {β : Type} {heap : Heap β} (h : heap.NoDest) {buf : Addr}
    {block : MsgBlock β} (hblock : block.hdr.destId = osalPortTaskNoTask) :
    Heap.NoDest (Function.update heap buf (some block)) := by
  intro a b hb
  by_cases ha : a = buf
  · subst ha
    rw [Function.update_self] at hb
    rw [← Option.some.inj hb, hblock]
  · rw [Function.update_of_ne ha] at hb
    exact h a b hb

/-- A block is freed. -/
theorem Heap.NoDest.erase {β : Type} {heap : Heap β} (h : heap.NoDest) (buf : Addr) :
    Heap.NoDest (Function.update heap buf none) := by
  intro a b hb
  by_cases ha : a = buf
  · subst ha
    simp at hb
  · rw [Function.update_of_ne ha] at hb
    exact h a b hb

/-- **`OsalPort_msgDeallocate`** frees a message, since no message has a destination. -/
theorem msgDeallocate_spec {β : Type} {heap : Heap β} (h : heap.NoDest) {pMsg : Addr}
    (halloc : ∃ block, heap pMsg = some block) :
    osalPortMsgDeallocate heap (some pMsg) =
      some (Function.update heap pMsg none, osalPortSuccess) := by
  obtain ⟨block, hblock⟩ := halloc
  simp [osalPortMsgDeallocate, hblock, h pMsg block hblock]

/-! ## Making a message -/

section Make

variable {heap heap' : Heap MacBody} {macBlocks kept : List Addr} {msg : MacCbackMsg}
  {block retry : Option Addr}

/-- The MAC hands over one block at most: the rest of its blocks are what is left. -/
theorem perm_handedOver {pData : Addr} {event : MacCbackEvent}
    (hover : ∀ buf ∈ handedOver pData event, buf ∈ macBlocks) :
    macBlocks.Perm (handedOver pData event ++ macBlocks.diff (handedOver pData event)) := by
  have hlen : (handedOver pData event).length ≤ 1 := by
    rw [handedOver]
    split_ifs
    · exact le_rfl
    · exact length_attached_le event
  match hlist : handedOver pData event with
  | [] => exact .refl _
  | [a] =>
    rw [hlist] at hover
    rw [List.diff_cons, List.diff_nil]
    exact List.perm_cons_erase (hover a (by simp))
  | a :: b :: l =>
    rw [hlist] at hlen
    simp at hlen

/-- What the first part of `MAC_CbackEvent` has done. What is in `kept` is not touched. If it has
made a message, this message has the blocks that it needs; else the blocks `left` have no owner. -/
structure Made (heap heap' : Heap MacBody) (macBlocks kept left : List Addr)
    (posted : Option MacCbackMsg) (pMsg : Option Addr) : Prop where
  noDest : heap'.NoDest
  same : ∀ a ∈ kept, heap' a = heap a
  message :
    match posted with
    | some m => ∃ p, pMsg = some p ∧ heap'.body p = some (.cback m) ∧
      Owns heap' (macBlocks ++ (blocks (p, m) ++ kept))
    | none => pMsg = none ∧ Owns heap' (macBlocks ++ (left ++ kept))

/-- Nothing is done. -/
theorem Made.nothing {left : List Addr} (hdest : heap.NoDest)
    (howns : Owns heap (macBlocks ++ (left ++ kept))) :
    Made heap heap macBlocks kept left none none :=
  ⟨hdest, fun _ _ => rfl, rfl, howns⟩

/-- An allocation that fails. -/
theorem copyMessage_of_noRoom (h : ¬ (msg.event.len ≠ 0 ∧ block.isSome)) :
    copyMessage heap msg block = some (heap, none) := by
  have hzero : msg.event.len.toUInt16 = 0 ↔ msg.event.len = 0 := by
    rw [← UInt16.toNat_inj, ← UInt8.toNat_inj, UInt8.toNat_toUInt16]
    rfl
  have hfail : osalPortMsgAllocate heap msg.event.len.toUInt16 block (.cback msg) =
      (heap, none) := by
    rw [osalPortMsgAllocate.eq_def]
    split_ifs with hlen
    · rfl
    · cases block with
      | none => rfl
      | some p => exact absurd ⟨fun heq => hlen (hzero.mpr heq), rfl⟩ h
  rw [copyMessage, hfail]

/-- An allocation that succeeds: the message is copied, unless it goes beyond its block. -/
theorem copyMessage_of_room {p : Addr} (hlen : msg.event.len ≠ 0) :
    copyMessage heap msg (some p) =
      if msg.event.TooLong then none
      else some (Function.update heap p (some ⟨⟨none, msg.event.len.toUInt16, osalPortTaskNoTask⟩,
        .cback msg⟩), some p) := by
  have hlen' : msg.event.len.toUInt16 ≠ 0 := by
    intro heq
    refine hlen ?_
    rw [← UInt8.toNat_inj]
    exact (UInt8.toNat_toUInt16 _).symm.trans (congrArg UInt16.toNat heq)
  have hfits : msg.event.copied ≤ msg.event.len.toNat ↔ ¬ msg.event.TooLong := by
    rw [← MacCbackEvent.copied_le_iff]
    exact (or_iff_right hlen).symm
  rw [copyMessage, osalPortMsgAllocate.eq_def, if_neg hlen']
  by_cases htoo : msg.event.TooLong
  · rw [if_pos htoo]
    exact if_neg fun h => hfits.mp h htoo
  · rw [if_neg htoo]
    exact if_pos (hfits.mpr htoo)

/-- **Allocation**: a message gets a new block, if there is room, and takes with it what it points
to. -/
theorem copyMessage_spec (hdest : heap.NoDest)
    (howns : Owns heap (macBlocks ++ (msg.event.attached ++ kept))) (hblock : IsFree heap block)
    (hfits : msg.event.TooLong → block = none) :
    ∃ heap' pMsg, copyMessage heap msg block = some (heap', pMsg) ∧
      Made heap heap' macBlocks kept msg.event.attached
        (if msg.event.len ≠ 0 ∧ block.isSome then some msg else none) pMsg := by
  by_cases hroom : msg.event.len ≠ 0 ∧ block.isSome
  · rw [if_pos hroom]
    obtain ⟨hlen, hsome⟩ := hroom
    obtain ⟨p, rfl⟩ := Option.isSome_iff_exists.mp hsome
    have hok : ¬ msg.event.TooLong := fun htoo => absurd (hfits htoo) (by simp)
    rw [copyMessage_of_room hlen, if_neg hok]
    have hfree : heap p = none := hblock p rfl
    refine ⟨_, _, rfl, hdest.update rfl, fun a ha => ?_, p, rfl, ?_, ?_⟩
    · refine Function.update_of_ne ?_ _ _
      rintro rfl
      exact howns.not_mem hfree (by simp [ha])
    · simp [Heap.body]
    · refine (howns.alloc hfree _).perm ?_
      exact List.perm_middle.symm
  · rw [if_neg hroom, copyMessage_of_noRoom hroom]
    exact ⟨heap, none, rfl, .nothing hdest howns⟩

/-- A beacon that is too long is copied beyond its block. -/
theorem macCbackEvent_eq_none (osal : OsalPort MacBody) (appTaskId : UInt8) (pData : Addr)
    (htoo : msg.event.TooLong) (hblock : block.isSome) :
    macCbackEvent osal appTaskId pData msg block retry = none := by
  have hlen : msg.event.len ≠ 0 := fun hlen =>
    msg.event.copied_le_iff.mp (Or.inl hlen) htoo
  obtain ⟨p, rfl⟩ := Option.isSome_iff_exists.mp hblock
  have hcopy : copyMessage osal.heap msg (some p) = none := by
    rw [copyMessage_of_room hlen, if_pos htoo]
  obtain ⟨status, event⟩ := msg
  cases event with
  | beaconNotifyInd beaconType pPanDesc pendAddrSpec sduLength =>
    simp only [macCbackEvent, cbackMessage,
      if_pos (Or.inl htoo.1 : beaconType = macBeaconStandard ∨ _), hcopy, Option.bind_eq_bind,
      Option.bind_none]
  | _ => exact absurd htoo not_false

/-- **The first part of `MAC_CbackEvent`** makes the message that is sent, or none.

**Proof sketch.** A message in a block is passed on. Any other is copied to a new block. For a data
confirm the first try can fail; then the data request is freed and the confirm no longer points to
it. -/
theorem cbackMessage_spec {pData : Addr} (hdest : heap.NoDest)
    (howns : Owns heap (macBlocks ++ kept))
    (hover : ∀ buf ∈ handedOver pData msg.event, buf ∈ macBlocks)
    (hbody : msg.event.inBlock → heap.body pData = some (.cback msg))
    (hblock : IsFree heap block)
    (hretry : ∀ buf ∈ retry, buf ∈ msg.event.attached ∨ heap buf = none)
    (hfits : msg.event.TooLong → block = none) :
    ∃ heap' pMsg, cbackMessage heap pData msg block retry = some (heap', pMsg) ∧
      Made heap heap' (macBlocks.diff (handedOver pData msg.event)) kept
        msg.event.results (msg.posted block retry) pMsg := by
  have hhand : Owns heap (macBlocks.diff (handedOver pData msg.event) ++
      (handedOver pData msg.event ++ kept)) := by
    refine howns.perm (((perm_handedOver hover).append_right kept).trans ?_)
    rw [List.append_assoc]
    exact List.perm_append_comm_assoc _ _ _
  obtain ⟨status, event⟩ := msg
  cases event with
  | dataInd dstPanId msdu =>
    exact ⟨heap, some pData, rfl, hdest, fun _ _ => rfl, pData, rfl, hbody rfl, hhand⟩
  | wsAsyncInd =>
    exact ⟨heap, some pData, rfl, hdest, fun _ _ => rfl, pData, rfl, hbody rfl, hhand⟩
  | beaconNotifyInd beaconType pPanDesc pendAddrSpec sduLength =>
    simp only [cbackMessage, MacCbackMsg.posted]
    by_cases htype : beaconType = macBeaconStandard ∨ beaconType = macBeaconEnhanced
    · rw [if_pos htype]
      simp only [htype, true_and]
      exact copyMessage_spec hdest hhand hblock hfits
    · rw [if_neg htype, if_neg fun h => htype h.1]
      exact ⟨heap, none, rfl, .nothing hdest hhand⟩
  | dataCnf pDataReq =>
    cases pDataReq with
    | none => exact copyMessage_spec hdest hhand hblock hfits
    | some pDataReq =>
      obtain ⟨heap₁, pMsg, hcopy, hmade⟩ :=
        @copyMessage_spec _ _ _ ⟨status, .dataCnf (some pDataReq)⟩ _ hdest hhand hblock hfits
      simp only [cbackMessage, MacCbackMsg.posted]
      by_cases hroom : (MacCbackEvent.dataCnf (some pDataReq)).len ≠ 0 ∧ block.isSome
      · rw [if_pos hroom] at hmade ⊢
        obtain ⟨p, hp, hrest⟩ := hmade.message
        obtain rfl : pMsg = some p := hp
        rw [hcopy]
        exact ⟨heap₁, some p, rfl, hmade.noDest, hmade.same, hmade.message⟩
      · rw [if_neg hroom, copyMessage_of_noRoom hroom]
        have hreq : Owns heap (pDataReq :: (macBlocks.diff
            (handedOver pData (.dataCnf (some pDataReq))) ++ kept)) :=
          hhand.perm List.perm_middle
        have hfreed := hreq.free
        have hnot : pDataReq ∉ kept := by
          intro hmem
          exact (List.nodup_cons.mp hreq.nodup).1 (by simp [hmem])
        have hsame : ∀ a ∈ kept, Function.update heap pDataReq none a = heap a := by
          intro a ha
          refine Function.update_of_ne ?_ _ _
          rintro rfl
          exact hnot ha
        have hfree : IsFree (Function.update heap pDataReq none) retry := by
          intro buf hbuf
          rcases hretry buf hbuf with hmem | hnone
          · obtain rfl : buf = pDataReq := by simpa [MacCbackEvent.attached] using hmem
            exact Function.update_self _ _ _
          · by_cases hb : buf = pDataReq
            · subst hb
              exact Function.update_self _ _ _
            · rw [Function.update_of_ne hb, hnone]
        obtain ⟨heap₂, pMsg₂, hagain, hmade₂⟩ :=
          @copyMessage_spec _ _ kept ⟨status, .dataCnf none⟩ _ (hdest.erase pDataReq) hfreed hfree
            False.elim
        simp only [msgDeallocate_spec hdest (hreq.exists_of_mem (List.mem_cons_self ..)),
          Option.bind_some, hagain]
        exact ⟨heap₂, pMsg₂, rfl, hmade₂.noDest,
          fun a ha => (hmade₂.same a ha).trans (hsame a ha), hmade₂.message⟩
  | scanCnf result => exact copyMessage_spec hdest hhand hblock hfits
  | _ => exact copyMessage_spec hdest hhand hblock hfits

end Make

/-! ## Freeing a message -/

/-- **After the callback**, what the message points to is freed, unless it has not been handled. -/
theorem freeAttached_spec {heap : Heap MacBody} {owned : List Addr} {msg : MacCbackMsg}
    (hdest : heap.NoDest) (howns : Owns heap (msg.event.attached ++ owned)) :
    ∃ heap', freeAttached heap msg = some heap' ∧ heap'.NoDest ∧
      (∀ a ∈ owned, heap' a = heap a) ∧
      Owns heap' ((if msg.status = macBadState then msg.event.attached else []) ++ owned) := by
  by_cases hstatus : msg.status = macBadState
  · rw [if_pos hstatus, freeAttached, if_pos hstatus]
    exact ⟨heap, rfl, hdest, fun _ _ => rfl, howns⟩
  · rw [if_neg hstatus, freeAttached, if_neg hstatus]
    obtain ⟨status, event⟩ := msg
    have hfree : ∀ buf, Owns heap (buf :: owned) →
        Heap.NoDest (Function.update heap buf none) ∧
          (∀ a ∈ owned, Function.update heap buf none a = heap a) ∧
          Owns (Function.update heap buf none) ([] ++ owned) := by
      intro buf hbuf
      refine ⟨hdest.erase buf, fun a ha => Function.update_of_ne ?_ _ _, hbuf.free⟩
      rintro rfl
      exact (List.nodup_cons.mp hbuf.nodup).1 ha
    cases event with
    | scanCnf result =>
      cases result with
      | none => exact ⟨heap, rfl, hdest, fun _ _ => rfl, howns⟩
      | some result =>
        obtain ⟨b, hb⟩ := howns.exists_of_mem
          (show result ∈ _ by simp [MacCbackEvent.attached])
        exact ⟨_, by simp [osalPortFree, hb], hfree result howns⟩
    | dataCnf pDataReq =>
      cases pDataReq with
      | none => exact ⟨heap, rfl, hdest, fun _ _ => rfl, howns⟩
      | some pDataReq =>
        have halloc := howns.exists_of_mem
          (show pDataReq ∈ _ by simp [MacCbackEvent.attached])
        exact ⟨_, by simp [msgDeallocate_spec hdest halloc], hfree pDataReq howns⟩
    | _ => exact ⟨heap, rfl, hdest, fun _ _ => rfl, howns⟩

end SensorCollector
