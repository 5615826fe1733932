import Mathlib.Data.Finset.Card
import SensorCollector.Osal.Defs

set_option relaxedAutoImplicit false
set_option autoImplicit false

/-!
# Message queues

What the functions on queues do to the linked lists that the queues are. Each function is an
operation on the list of the messages: it changes the headers of messages of this list and of the
message it is given, and leaves the contents of all messages and all other queues as they are.

## Main definitions

* `SensorCollector.QueueAt` — the messages of a queue.
* `SensorCollector.Heap.Requeued` — a change of the headers of some messages.

## Main results

* `SensorCollector.msgEnqueue_spec` and its siblings — the functions on queues, as operations on
  lists.
-/

namespace SensorCollector

open LinkedList

variable {β : Type}

/-- The messages of the queue `pQ`, in order. -/
def QueueAt (heap : Heap β) (pQ : Option Addr) (msgs : List Addr) : Prop :=
  Chain heap.next pQ msgs

/-- What a block holds, apart from the two fields of the header that the queues use. -/
def Heap.content (heap : Heap β) (pMsg : Addr) : Option (UInt16 × β) :=
  (heap pMsg).map fun block => (block.hdr.len, block.body)

/-- What a block holds after its header. -/
def Heap.body (heap : Heap β) (pMsg : Addr) : Option β := (heap pMsg).map MsgBlock.body

/-- No message has a destination in its header. -/
def Heap.NoDest (heap : Heap β) : Prop :=
  ∀ pMsg block, heap pMsg = some block → block.hdr.destId = osalPortTaskNoTask

/-- The headers of some messages are changed, and nothing else. -/
structure Heap.Requeued (heap heap' : Heap β) (msgs : List Addr) : Prop where
  /-- The contents of all messages are the same. -/
  content : heap'.content = heap.content
  /-- All other messages are the same. -/
  others : ∀ pMsg, pMsg ∉ msgs → heap' pMsg = heap pMsg
  /-- No message is given a destination. -/
  noDest : heap.NoDest → heap'.NoDest

/-! ## Single headers -/

namespace Heap

/-- A message has a header if and only if its block is allocated. -/
theorem next_isSome_iff {heap : Heap β} {pMsg : Addr} :
    (∃ q, heap.next pMsg = some q) ↔ ∃ block, heap pMsg = some block := by
  simp [next]

/-- With the same contents, the same blocks are allocated. -/
theorem isSome_of_content {heap heap' : Heap β} (h : heap'.content = heap.content) (pMsg : Addr) :
    (heap' pMsg).isSome = (heap pMsg).isSome := by
  have hcontent := congrArg Option.isSome (congrFun h pMsg)
  simpa [content] using hcontent

/-- With the same contents, all blocks hold the same. -/
theorem body_of_content {heap heap' : Heap β} (h : heap'.content = heap.content) (pMsg : Addr) :
    heap'.body pMsg = heap.body pMsg := by
  have hcontent := congrArg (Option.map Prod.snd) (congrFun h pMsg)
  simpa [content, body, Function.comp_def] using hcontent

/-- Nothing is changed. -/
theorem Requeued.rfl {heap : Heap β} {msgs : List Addr} : heap.Requeued heap msgs :=
  ⟨Eq.refl _, fun _ _ => Eq.refl _, id⟩

/-- Two changes in a row. -/
theorem Requeued.trans {heap heap' heap'' : Heap β} {msgs : List Addr}
    (h : heap.Requeued heap' msgs) (h' : heap'.Requeued heap'' msgs) : heap.Requeued heap'' msgs :=
  ⟨h'.content.trans h.content, fun pMsg hmem => (h'.others pMsg hmem).trans (h.others pMsg hmem),
    fun hdest => h'.noDest (h.noDest hdest)⟩

/-- A change of some messages is one of more messages. -/
theorem Requeued.mono {heap heap' : Heap β} {msgs msgs' : List Addr} (h : heap.Requeued heap' msgs)
    (hsub : ∀ pMsg ∈ msgs, pMsg ∈ msgs') : heap.Requeued heap' msgs' :=
  ⟨h.content, fun pMsg hmem => h.others pMsg fun hmem' => hmem (hsub pMsg hmem'), h.noDest⟩

/-- After a change, the same blocks are allocated. -/
theorem Requeued.next_isSome {heap heap' : Heap β} {msgs : List Addr} (h : heap.Requeued heap' msgs)
    {pMsg : Addr} (hnext : ∃ q, heap.next pMsg = some q) : ∃ q, heap'.next pMsg = some q := by
  rw [next_isSome_iff, ← Option.isSome_iff_exists] at hnext ⊢
  rw [isSome_of_content h.content, hnext]

/-- A change of one block that keeps its contents and gives it no destination. -/
theorem requeued_update {heap : Heap β} {pMsg : Addr} {block block' : MsgBlock β}
    (hblock : heap pMsg = some block) (hlen : block'.hdr.len = block.hdr.len)
    (hbody : block'.body = block.body)
    (hdest : block.hdr.destId = osalPortTaskNoTask → block'.hdr.destId = osalPortTaskNoTask) :
    heap.Requeued (Function.update heap pMsg (some block')) [pMsg] := by
  refine ⟨?_, ?_, ?_⟩
  · funext a
    by_cases ha : a = pMsg
    · subst ha
      simp [content, hblock, hlen, hbody]
    · simp [content, Function.update_of_ne ha]
  · intro a ha
    exact Function.update_of_ne (by simpa using ha) _ _
  · intro hnodest a b hb
    by_cases ha : a = pMsg
    · subst ha
      rw [Function.update_self] at hb
      obtain rfl := Option.some.inj hb
      exact hdest (hnodest _ _ hblock)
    · rw [Function.update_of_ne ha] at hb
      exact hnodest a b hb

/-- Writing the link of a message. -/
theorem setNext_spec {heap : Heap β} {pMsg : Addr} (hnext : ∃ r, heap.next pMsg = some r)
    (q : Option Addr) : ∃ heap', heap.setNext pMsg q = some heap' ∧
      heap'.next = Function.update heap.next pMsg (some q) ∧ heap.Requeued heap' [pMsg] := by
  obtain ⟨block, hblock⟩ := next_isSome_iff.mp hnext
  refine ⟨Function.update heap pMsg (some { block with hdr := { block.hdr with next := q } }),
    by rw [setNext, hblock]; rfl, ?_, requeued_update hblock rfl rfl id⟩
  funext a
  by_cases ha : a = pMsg
  · subst ha
    simp [next]
  · simp [next, Function.update_of_ne ha]

/-- Marking a message as one that is in no queue. -/
theorem setId_spec {heap : Heap β} {pMsg : Addr} (hnext : ∃ r, heap.next pMsg = some r) :
    ∃ heap', heap.setId pMsg osalPortTaskNoTask = some heap' ∧ heap'.next = heap.next ∧
      heap.Requeued heap' [pMsg] := by
  obtain ⟨block, hblock⟩ := next_isSome_iff.mp hnext
  refine ⟨Function.update heap pMsg
      (some { block with hdr := { block.hdr with destId := osalPortTaskNoTask } }),
    by rw [setId, hblock]; rfl, ?_, requeued_update hblock rfl rfl fun _ => rfl⟩
  funext a
  by_cases ha : a = pMsg
  · subst ha
    simp [next, hblock]
  · simp [next, Function.update_of_ne ha]

/-- The two writes that take a message out of all queues. -/
theorem unlink_spec {heap : Heap β} {pMsg : Addr} (hnext : ∃ r, heap.next pMsg = some r) :
    ∃ heap₁ heap', heap.setNext pMsg none = some heap₁ ∧
      heap₁.setId pMsg osalPortTaskNoTask = some heap' ∧
      heap'.next = Function.update heap.next pMsg (some none) ∧ heap.Requeued heap' [pMsg] := by
  obtain ⟨heap₁, hset, hnext₁, hreq₁⟩ := setNext_spec hnext none
  obtain ⟨heap', hid, hnext', hreq'⟩ := setId_spec (hreq₁.next_isSome hnext)
  exact ⟨heap₁, heap', hset, hid, hnext'.trans hnext₁, hreq₁.trans hreq'⟩

end Heap

/-! ## Queues -/

/-- The messages of a queue are allocated. -/
theorem QueueAt.next_isSome {heap : Heap β} {pQ : Option Addr} {msgs : List Addr}
    (h : QueueAt heap pQ msgs) {pMsg : Addr} (hmem : pMsg ∈ msgs) :
    ∃ q, heap.next pMsg = some q :=
  Chain.link_isSome h hmem

/-- There are no more blocks than there are addresses. -/
theorem length_le_of_nodup {blocks : List Addr} (h : blocks.Nodup) :
    blocks.length ≤ UInt32.size := by
  have hnodup : (blocks.map UInt32.toNat).Nodup :=
    h.map fun _ _ heq => UInt32.toNat_inj.mp heq
  have hsub : (blocks.map UInt32.toNat).toFinset ⊆ Finset.range UInt32.size := by
    intro n hn
    obtain ⟨a, -, rfl⟩ := List.mem_map.mp (List.mem_toFinset.mp hn)
    exact Finset.mem_range.mpr a.toNat_lt_size
  have hcard := Finset.card_le_card hsub
  rwa [List.toFinset_card_of_nodup hnodup, List.length_map, Finset.card_range] at hcard

/-- A queue has no more messages than there are addresses. -/
theorem QueueAt.length_le {heap : Heap β} {pQ : Option Addr} {msgs : List Addr}
    (h : QueueAt heap pQ msgs) : msgs.length ≤ UInt32.size :=
  length_le_of_nodup h.nodup

/-- A queue is the same as long as the links of its messages are. -/
theorem QueueAt.requeued {heap heap' : Heap β} {pQ : Option Addr} {msgs changed : List Addr}
    (h : QueueAt heap pQ msgs) (hreq : heap.Requeued heap' changed)
    (hdisj : ∀ pMsg ∈ msgs, pMsg ∉ changed) : QueueAt heap' pQ msgs := by
  refine h.congr fun pMsg hmem => ?_
  rw [Heap.next, Heap.next, hreq.others pMsg (hdisj pMsg hmem)]

/-- The loop to the last message of a queue that is not empty. -/
theorem walkQueue_isLast {heap : Heap β} {pQ : Option Addr} {msgs : List Addr} {last : Addr}
    (h : QueueAt heap pQ (msgs ++ [last])) :
    walkQueue heap heap.isLast pQ = some ⟨msgs.length, msgs.getLast?, some last⟩ := by
  have hwalk : walkQueue heap heap.isLast pQ = _ :=
    @walk_link _ heap.next _ pQ msgs [] last h _ h.length_le none
  rw [Option.or_none] at hwalk
  exact hwalk

/-- **`OsalPort_msgEnqueue`** puts a message at the end of a queue. -/
theorem msgEnqueue_spec {heap : Heap β} {pQ : Option Addr} {msgs : List Addr} {pMsg : Addr}
    (h : QueueAt heap pQ msgs) (halloc : ∃ q, heap.next pMsg = some q) (hnew : pMsg ∉ msgs) :
    ∃ heap', osalPortMsgEnqueue heap pQ (some pMsg) = some (heap', (msgs ++ [pMsg]).head?) ∧
      QueueAt heap' (msgs ++ [pMsg]).head? (msgs ++ [pMsg]) ∧
      heap.Requeued heap' (pMsg :: msgs) := by
  obtain ⟨heap₁, hset₁, hnext₁, hreq₁⟩ := Heap.setNext_spec halloc none
  have hone : QueueAt heap₁ (some pMsg) [pMsg] :=
    ⟨rfl, none, by rw [hnext₁, Function.update_self], rfl⟩
  rcases List.eq_nil_or_concat msgs with rfl | ⟨init, last, rfl⟩
  · obtain rfl : pQ = none := h
    exact ⟨heap₁, by simp [osalPortMsgEnqueue, hset₁], hone, hreq₁⟩
  · rw [List.concat_eq_append] at h hnew ⊢
    have h₁ : QueueAt heap₁ pQ (init ++ [last]) :=
      h.requeued hreq₁ fun a ha => by rintro hmem; exact hnew (by simp_all)
    have hlast : last ≠ pMsg := by rintro rfl; exact hnew (by simp)
    obtain ⟨heap₂, hset₂, hnext₂, hreq₂⟩ :=
      Heap.setNext_spec (h₁.next_isSome (show last ∈ init ++ [last] by simp)) (some pMsg)
    obtain ⟨first, rest, hcons⟩ : ∃ first rest, init ++ [last] = first :: rest := by
      cases init <;> exact ⟨_, _, rfl⟩
    have hpQ : pQ = some first := by
      rw [h.eq_head?, hcons]
      rfl
    have hhead : (init ++ [last] ++ [pMsg]).head? = pQ := by
      rw [hcons, hpQ]
      rfl
    have h₂ : QueueAt heap₂ pQ (init ++ [last] ++ [pMsg]) := by
      rw [QueueAt, hnext₂, List.append_assoc]
      exact Chain.relink h₁ hone (by simpa using hlast)
    refine ⟨heap₂, ?_, hhead ▸ h₂, ?_⟩
    · rw [hhead, osalPortMsgEnqueue, hset₁, hpQ]
      rw [hpQ] at h₁
      simp [walkQueue_isLast h₁, hset₂]
    · exact (hreq₁.mono (by simp)).trans (hreq₂.mono (by simp))

/-- **`OsalPort_msgEnqueueMax`** puts a message at the end of a queue if one less than the number of
its messages is below the limit. -/
theorem msgEnqueueMax_spec {heap : Heap β} {pQ : Option Addr} {msgs : List Addr} {pMsg : Addr}
    (h : QueueAt heap pQ msgs) (halloc : ∃ q, heap.next pMsg = some q) (hnew : pMsg ∉ msgs)
    (max : UInt8) :
    if msgs.length - 1 < max.toNat then
      ∃ heap', osalPortMsgEnqueueMax heap pQ (some pMsg) max =
          some (heap', (msgs ++ [pMsg]).head?, true) ∧
        QueueAt heap' (msgs ++ [pMsg]).head? (msgs ++ [pMsg]) ∧ heap.Requeued heap' (pMsg :: msgs)
    else osalPortMsgEnqueueMax heap pQ (some pMsg) max = some (heap, pQ, false) := by
  have hmax : osalPortMsgEnqueueMax heap pQ (some pMsg) max =
      if msgs.length - 1 < max.toNat then
        (osalPortMsgEnqueue heap pQ (some pMsg)).map fun r => (r.1, r.2, true)
      else some (heap, pQ, false) := by
    have hdo : ∀ n : ℕ, (if n < max.toNat then
        (osalPortMsgEnqueue heap pQ (some pMsg)).bind fun r => some (r.1, r.2, true)
        else some (heap, pQ, false)) = if n < max.toNat then
        (osalPortMsgEnqueue heap pQ (some pMsg)).map fun r => (r.1, r.2, true)
        else some (heap, pQ, false) := by
      intro n
      rw [Option.map_eq_bind]
      rfl
    rw [← hdo]
    -- what the loop has counted
    rcases List.eq_nil_or_concat msgs with rfl | ⟨init, last, rfl⟩
    · obtain rfl : pQ = none := h
      rfl
    · rw [List.concat_eq_append] at h ⊢
      obtain ⟨first, hpQ⟩ : ∃ first, pQ = some first := by
        rw [h.eq_head?]
        cases init <;> exact ⟨_, rfl⟩
      subst hpQ
      simp only [osalPortMsgEnqueueMax, walkQueue_isLast h, Option.map_some, Option.bind_eq_bind,
        Option.bind_some, List.length_append, List.length_singleton, Nat.add_sub_cancel]
      rfl
  rw [hmax]
  split_ifs
  · obtain ⟨heap', heq, h', hreq⟩ := msgEnqueue_spec h halloc hnew
    exact ⟨heap', by rw [heq]; rfl, h', hreq⟩
  · rfl

/-- **`OsalPort_msgDequeue`** takes the first message out of a queue. -/
theorem msgDequeue_spec {heap : Heap β} {pQ : Option Addr} {msgs : List Addr}
    (h : QueueAt heap pQ msgs) :
    ∃ heap', osalPortMsgDequeue heap pQ = some (heap', msgs.tail.head?, msgs.head?) ∧
      QueueAt heap' msgs.tail.head? msgs.tail ∧ heap.Requeued heap' msgs := by
  cases msgs with
  | nil =>
    obtain rfl : pQ = none := h
    exact ⟨heap, rfl, rfl, .rfl⟩
  | cons pMsg msgs =>
    have hnodup := List.nodup_cons.mp h.nodup
    obtain ⟨rfl, next, hnext, htail⟩ := h
    obtain ⟨heap₁, heap', hset, hid, hnext', hreq⟩ := Heap.unlink_spec ⟨next, hnext⟩
    have hhead : next = msgs.head? := htail.eq_head?
    refine ⟨heap', ?_, ?_, hreq.mono (by simp)⟩
    · simp [osalPortMsgDequeue, hnext, hset, hid, hhead]
    · rw [List.tail_cons, QueueAt, hnext', ← hhead]
      exact htail.update hnodup.1 _

/-- **`OsalPort_msgPush`** puts a message at the front of a queue. -/
theorem msgPush_spec {heap : Heap β} {pQ : Option Addr} {msgs : List Addr} {pMsg : Addr}
    (h : QueueAt heap pQ msgs) (halloc : ∃ q, heap.next pMsg = some q) (hnew : pMsg ∉ msgs) :
    ∃ heap', osalPortMsgPush heap pQ pMsg = some (heap', some pMsg) ∧
      QueueAt heap' (some pMsg) (pMsg :: msgs) ∧ heap.Requeued heap' (pMsg :: msgs) := by
  obtain ⟨heap', hset, hnext, hreq⟩ := Heap.setNext_spec halloc pQ
  refine ⟨heap', by rw [osalPortMsgPush, hset]; rfl, ⟨rfl, pQ, ?_, ?_⟩, hreq.mono (by simp)⟩
  · rw [hnext, Function.update_self]
  · rw [hnext]
    exact Chain.update h hnew _

/-- **Going past a message**: the link before it, which is the queue itself if it is the first one,
is set to the message after it.

**Proof sketch.** No message occurs twice, so the rest of the queue does not contain the one before,
and the shortened queue does not contain the message. -/
theorem bypass_spec {heap : Heap β} {pQ : Option Addr} {as bs : List Addr} {pMsg : Addr}
    (h : QueueAt heap pQ (as ++ pMsg :: bs)) :
    ∃ heap', (match as.getLast? with
        | none => some (heap, bs.head?)
        | some pPrev => (heap.setNext pPrev bs.head?).map fun heap => (heap, pQ)) =
          some (heap', (as ++ bs).head?) ∧
      QueueAt heap' (as ++ bs).head? (as ++ bs) ∧ heap.Requeued heap' (as ++ pMsg :: bs) := by
  rcases List.eq_nil_or_concat as with rfl | ⟨init, pPrev, rfl⟩
  · obtain ⟨-, q, -, htail⟩ := h
    refine ⟨heap, rfl, ?_, .rfl⟩
    rw [List.nil_append, ← htail.eq_head?]
    exact htail
  · rw [List.concat_eq_append] at h ⊢
    have hhead : (init ++ [pPrev] ++ bs).head? = pQ := by
      rw [h.eq_head?]
      cases init <;> rfl
    rw [List.append_assoc, List.singleton_append] at h
    have hprev : pPrev ∉ bs := by
      have hnodup := h.nodup
      rw [List.nodup_middle, List.nodup_cons] at hnodup
      exact fun hmem => hnodup.1 (by simp [hmem])
    obtain ⟨-, q, -, -, r, -, hbs⟩ := Chain.drop h
    rw [hbs.eq_head?] at hbs
    obtain ⟨heap', hset, hnext, hreq⟩ :=
      Heap.setNext_spec (h.next_isSome (show pPrev ∈ init ++ pPrev :: pMsg :: bs by simp)) bs.head?
    refine ⟨heap', ?_, ?_, hreq.mono (by simp)⟩
    · rw [List.getLast?_concat, hhead]
      simp [hset]
    · rw [hhead, QueueAt, hnext, List.append_assoc]
      exact Chain.relink h hbs hprev

/-- A message that has been gone past loses its own link. -/
theorem unlink_of_bypass {heap heap' : Heap β} {pQ q : Option Addr} {as bs : List Addr}
    {pMsg : Addr} (h : QueueAt heap pQ (as ++ pMsg :: bs)) (h' : QueueAt heap' q (as ++ bs))
    (hreq : heap.Requeued heap' (as ++ pMsg :: bs)) :
    ∃ heap₁ heap'', heap'.setNext pMsg none = some heap₁ ∧
      heap₁.setId pMsg osalPortTaskNoTask = some heap'' ∧ QueueAt heap'' q (as ++ bs) ∧
      heap.Requeued heap'' (as ++ pMsg :: bs) := by
  have hmsg : pMsg ∉ as ++ bs := by
    have hnodup := h.nodup
    rw [List.nodup_middle, List.nodup_cons] at hnodup
    exact hnodup.1
  obtain ⟨heap₁, heap'', hset, hid, hnext, hreq'⟩ :=
    Heap.unlink_spec (hreq.next_isSome (h.next_isSome (show pMsg ∈ as ++ pMsg :: bs by simp)))
  refine ⟨heap₁, heap'', hset, hid, ?_, hreq.trans (hreq'.mono (by simp))⟩
  rw [QueueAt, hnext]
  exact Chain.update h' hmsg _

/-- **`OsalPort_msgExtract`** takes a message out of a queue, given the message before it. -/
theorem msgExtract_spec {heap : Heap β} {pQ : Option Addr} {as bs : List Addr} {pMsg : Addr}
    (h : QueueAt heap pQ (as ++ pMsg :: bs)) :
    ∃ heap', osalPortMsgExtract heap pQ pMsg as.getLast? = some (heap', (as ++ bs).head?) ∧
      QueueAt heap' (as ++ bs).head? (as ++ bs) ∧ heap.Requeued heap' (as ++ pMsg :: bs) := by
  obtain ⟨heap', hbypass, h', hreq⟩ := bypass_spec h
  obtain ⟨heap₁, heap'', hset, hid, h'', hreq'⟩ := unlink_of_bypass h h' hreq
  refine ⟨heap'', ?_, h'', hreq'⟩
  -- the message is the first one if and only if there is none before it
  have hfirst : (some pMsg = pQ) ↔ as.getLast? = none := by
    rw [h.eq_head?, List.getLast?_eq_none_iff]
    cases as with
    | nil => simp
    | cons a as =>
      have hnodup := h.nodup
      simp only [List.cons_append, List.nodup_cons, List.mem_append, List.mem_cons] at hnodup
      simp only [List.cons_append, List.head?_cons, Option.some.injEq, reduceCtorEq, iff_false]
      rintro rfl
      exact hnodup.1 (by simp)
  have hnext : heap.next pMsg = some bs.head? := Chain.link_eq h
  rw [osalPortMsgExtract, hnext]
  cases hlast : as.getLast? with
  | none =>
    rw [hlast] at hbypass
    simp only [Option.some.injEq, Prod.mk.injEq] at hbypass
    obtain ⟨rfl, hhead⟩ := hbypass
    simp [hfirst.mpr hlast, hset, hid, ← hhead]
  | some pPrev =>
    rw [hlast] at hbypass
    have hne : ¬ some pMsg = pQ := fun heq => by simp [hfirst.mp heq] at hlast
    replace hbypass : ((heap.setNext pPrev bs.head?).map fun heap => (heap, pQ)) =
      some (heap', (as ++ bs).head?) := hbypass
    simp only [if_neg hne, Option.bind_eq_bind, Option.bind_some, hbypass, hset, hid,
      Option.pure_def]

/-- The test of the messages of a queue for an event, from what they hold. -/
def eventTest (heap : Heap β) (event : β → UInt8) (e : UInt8) (pMsg : Addr) : Bool :=
  (heap.content pMsg).any fun c => event c.2 = e

/-- The loop for an event reads only messages of the queue. -/
theorem QueueAt.hasEvent {heap : Heap β} {pQ : Option Addr} {msgs : List Addr}
    (h : QueueAt heap pQ msgs) (event : β → UInt8) (e : UInt8) :
    ∀ pMsg ∈ msgs, heap.hasEvent event e pMsg = some (eventTest heap event e pMsg) := by
  intro pMsg hmem
  obtain ⟨block, hblock⟩ := Heap.next_isSome_iff.mp (h.next_isSome hmem)
  simp [Heap.hasEvent, eventTest, Heap.content, hblock]

/-- **`OsalPort_msgFind`** returns the first message of a queue with the event. -/
theorem msgFindIn_spec {heap : Heap β} {pQ : Option Addr} {msgs : List Addr}
    (h : QueueAt heap pQ msgs) (event : β → UInt8) (e : UInt8) :
    osalPortMsgFindIn heap event pQ e = some (msgs.find? (eventTest heap event e)) := by
  rw [osalPortMsgFindIn, walkQueue, walk_eq h (h.hasEvent event e) h.length_le]
  rfl

/-- **`OsalPort_msgFindDequeue`** takes the first message with the event out of a queue. -/
theorem msgFindDequeueIn_spec {heap : Heap β} {pQ : Option Addr} {msgs : List Addr}
    (h : QueueAt heap pQ msgs) (event : β → UInt8) (e : UInt8) :
    ∃ heap', osalPortMsgFindDequeueIn heap event pQ e =
        some (heap', (msgs.eraseP (eventTest heap event e)).head?,
          msgs.find? (eventTest heap event e)) ∧
      QueueAt heap' (msgs.eraseP (eventTest heap event e)).head?
        (msgs.eraseP (eventTest heap event e)) ∧ heap.Requeued heap' msgs := by
  have hwalk : walkQueue heap (heap.hasEvent event e) pQ = _ :=
    walk_eq h (h.hasEvent event e) h.length_le 0 none
  rw [Option.or_none] at hwalk
  cases hfind : msgs.find? (eventTest heap event e) with
  | none =>
    have herase : msgs.eraseP (eventTest heap event e) = msgs :=
      List.eraseP_of_forall_not (by simpa using hfind)
    rw [herase, ← h.eq_head?]
    exact ⟨heap, by simp [osalPortMsgFindDequeueIn, hwalk, hfind], h, .rfl⟩
  | some pMsg =>
    obtain ⟨hhit, as, bs, rfl, hbefore⟩ := List.find?_eq_some_iff_append.mp hfind
    have htake : ((as ++ pMsg :: bs).takeWhile fun a => !eventTest heap event e a) = as := by
      rw [List.takeWhile_append_of_pos (by simpa using hbefore)]
      simp [hhit]
    have herase : (as ++ pMsg :: bs).eraseP (eventTest heap event e) = as ++ bs := by
      rw [List.eraseP_append_right _ (by simpa using hbefore), List.eraseP_cons_of_pos hhit]
    obtain ⟨heap', hbypass, h', hreq⟩ := bypass_spec h
    obtain ⟨heap₁, heap'', hset, hid, h'', hreq'⟩ := unlink_of_bypass h h' hreq
    have hnext : heap.next pMsg = some bs.head? := Chain.link_eq h
    rw [herase]
    refine ⟨heap'', ?_, h'', hreq'⟩
    rw [osalPortMsgFindDequeueIn, hwalk, hfind, htake]
    simp only [hnext, Option.bind_eq_bind, Option.bind_some]
    cases hlast : as.getLast? with
    | none =>
      rw [hlast] at hbypass
      simp only [Option.some.injEq, Prod.mk.injEq] at hbypass
      obtain ⟨rfl, hhead⟩ := hbypass
      simp [hset, hid, ← hhead]
    | some pPrev =>
      rw [hlast] at hbypass
      replace hbypass : ((heap.setNext pPrev bs.head?).map fun heap => (heap, pQ)) =
        some (heap', (as ++ bs).head?) := hbypass
      simp only [hbypass, Option.bind_some, hset, hid, Option.pure_def]

end SensorCollector
