import SensorCollector.Lib.Simulation
import SensorCollector.Osal.Queue

set_option relaxedAutoImplicit false
set_option autoImplicit false

/-!
# Runs of a message queue

A queue is used by any number of tasks and interrupts, one function at a time: each function is a
critical section. So the uses of a queue are the runs of a machine whose events are the calls of the
functions. This machine works on the heap; the one it is compared with works on lists.

A message must not be put into a queue that it is in already, and the message before the one that is
to be extracted must be the right one. The functions do not check that. The machine on lists has no
step where it is not so.

The limit of `OsalPort_msgEnqueueMax` is compared with the number of links between the messages,
which is one less than the number of messages.

## Main definitions

* `SensorCollector.QueueOp`, `SensorCollector.queueMachine` — the functions on a queue, on the heap.
* `SensorCollector.listQueueMachine` — the same functions on a list of messages.
* `SensorCollector.QueueOp.AddsUpTo` — messages are added with a limit only.
* `SensorCollector.queueCapacity` — how many messages a limit lets in.

## Main results

* `SensorCollector.queueMachine_implements` — the functions on the heap are those on lists.
* `SensorCollector.queue_enqueueMax_exact` — the queues that can come about with the limit `max` are
  those of up to `max + 1` messages.
-/

namespace SensorCollector

open EventMachine LinkedList

/-- The functions on a queue. -/
inductive QueueOp
  | enqueue (pMsg : Addr)
  | enqueueMax (pMsg : Addr) (max : UInt8)
  | dequeue
  | push (pMsg : Addr)
  | extract (pMsg : Addr) (pPrev : Option Addr)
  | find (e : UInt8)
  | findDequeue (e : UInt8)

/-- What a function on a queue returns. -/
inductive QueueOut
  | done
  /-- Whether the message was put into the queue. -/
  | added (status : Bool)
  | msg (pMsg : Option Addr)
  deriving DecidableEq

section Machines

variable {β : Type} (event : β → UInt8)

/-- The functions on the heap, with the queue as a link. -/
def queueMachine : EventMachine (Heap β × Option Addr) QueueOp QueueOut where
  step s
    | .enqueue pMsg =>
      (osalPortMsgEnqueue s.1 s.2 (some pMsg)).map fun r => ((r.1, r.2), .done)
    | .enqueueMax pMsg max =>
      (osalPortMsgEnqueueMax s.1 s.2 (some pMsg) max).map fun r => ((r.1, r.2.1), .added r.2.2)
    | .dequeue => (osalPortMsgDequeue s.1 s.2).map fun r => ((r.1, r.2.1), .msg r.2.2)
    | .push pMsg => (osalPortMsgPush s.1 s.2 pMsg).map fun r => ((r.1, r.2), .done)
    | .extract pMsg pPrev =>
      (osalPortMsgExtract s.1 s.2 pMsg pPrev).map fun r => ((r.1, r.2), .done)
    | .find e => (osalPortMsgFindIn s.1 event s.2 e).map fun pMsg => (s, .msg pMsg)
    | .findDequeue e =>
      (osalPortMsgFindDequeueIn s.1 event s.2 e).map fun r => ((r.1, r.2.1), .msg r.2.2)

/-- A message that can be put into a queue: its block is allocated, and it is not in the queue. -/
def CanAdd (heap : Heap β) (msgs : List Addr) (pMsg : Addr) : Prop :=
  (heap pMsg).isSome ∧ pMsg ∉ msgs

instance (heap : Heap β) (msgs : List Addr) (pMsg : Addr) : Decidable (CanAdd heap msgs pMsg) :=
  inferInstanceAs (Decidable (_ ∧ _))

/-- The same functions on a list of messages, whose contents are those of the heap. -/
def listQueueMachine (heap : Heap β) : EventMachine (List Addr) QueueOp QueueOut where
  step msgs
    | .enqueue pMsg => if CanAdd heap msgs pMsg then some (msgs ++ [pMsg], .done) else none
    | .enqueueMax pMsg max =>
      if CanAdd heap msgs pMsg then
        if msgs.length - 1 < max.toNat then some (msgs ++ [pMsg], .added true)
        else some (msgs, .added false)
      else none
    | .dequeue => some (msgs.tail, .msg msgs.head?)
    | .push pMsg => if CanAdd heap msgs pMsg then some (pMsg :: msgs, .done) else none
    | .extract pMsg pPrev =>
      if pMsg ∈ msgs ∧ pPrev = (msgs.takeWhile fun a => a ≠ pMsg).getLast? then
        some (msgs.erase pMsg, .done)
      else none
    | .find e => some (msgs, .msg (msgs.find? (eventTest heap event e)))
    | .findDequeue e =>
      some (msgs.eraseP (eventTest heap event e), .msg (msgs.find? (eventTest heap event e)))

/-- The queue has these messages, and the contents of all messages are those of `heap₀`. -/
structure Represents (heap₀ : Heap β) (s : Heap β × Option Addr) (msgs : List Addr) : Prop where
  queue : QueueAt s.1 s.2 msgs
  content : s.1.content = heap₀.content

variable {event} {heap₀ : Heap β} {s : Heap β × Option Addr} {msgs : List Addr}

/-- The same blocks are allocated. -/
theorem Represents.isSome_eq (h : Represents heap₀ s msgs) (pMsg : Addr) :
    (s.1 pMsg).isSome = (heap₀ pMsg).isSome :=
  Heap.isSome_of_content h.content pMsg

/-- The messages that can be added are allocated in the heap. -/
theorem Represents.next_isSome (h : Represents heap₀ s msgs) {pMsg : Addr}
    (hadd : CanAdd heap₀ msgs pMsg) : ∃ q, s.1.next pMsg = some q := by
  have hsome := hadd.1
  rw [← h.isSome_eq] at hsome
  exact Heap.next_isSome_iff.mpr (Option.isSome_iff_exists.mp hsome)

/-- The messages of the queue are allocated. -/
theorem Represents.isSome (h : Represents heap₀ s msgs) {pMsg : Addr} (hmem : pMsg ∈ msgs) :
    (heap₀ pMsg).isSome := by
  rw [← h.isSome_eq]
  exact Option.isSome_iff_exists.mpr (Heap.next_isSome_iff.mp (h.queue.next_isSome hmem))

/-- After a change of headers the contents are still those of `heap₀`. -/
theorem Represents.requeued (h : Represents heap₀ s msgs) {heap' : Heap β} {q' : Option Addr}
    {msgs' changed : List Addr} (hq : QueueAt heap' q' msgs')
    (hreq : s.1.Requeued heap' changed) : Represents heap₀ (heap', q') msgs' :=
  ⟨hq, hreq.content.trans h.content⟩

/-- The test for an event depends on the contents only. -/
theorem Represents.eventTest_eq (h : Represents heap₀ s msgs) (e : UInt8) :
    eventTest s.1 event e = eventTest heap₀ event e := by
  funext pMsg
  rw [eventTest, eventTest, h.content]

/-- **One function** on the heap does what it does on the list. -/
theorem Represents.step (h : Represents heap₀ s msgs) {op : QueueOp} {msgs' : List Addr}
    {out : QueueOut} (hs : (listQueueMachine event heap₀).step msgs op = some (msgs', out)) :
    ∃ s', (queueMachine event).step s op = some (s', out) ∧ Represents heap₀ s' msgs' := by
  cases op with
  | enqueue pMsg =>
    simp only [listQueueMachine, Option.ite_none_right_eq_some, Option.some.injEq,
      Prod.mk.injEq] at hs
    obtain ⟨hadd, rfl, rfl⟩ := hs
    obtain ⟨heap', heq, hq, hreq⟩ := msgEnqueue_spec h.queue (h.next_isSome hadd) hadd.2
    exact ⟨_, by simp only [queueMachine, heq, Option.map_some], h.requeued hq hreq⟩
  | enqueueMax pMsg max =>
    simp only [listQueueMachine, Option.ite_none_right_eq_some] at hs
    obtain ⟨hadd, hs⟩ := hs
    have hspec := msgEnqueueMax_spec h.queue (h.next_isSome hadd) hadd.2 max
    split_ifs at hs hspec with hmax
    · obtain ⟨rfl, rfl⟩ := Prod.mk.inj (Option.some.inj hs)
      obtain ⟨heap', heq, hq, hreq⟩ := hspec
      exact ⟨_, by simp only [queueMachine, heq, Option.map_some], h.requeued hq hreq⟩
    · obtain ⟨rfl, rfl⟩ := Prod.mk.inj (Option.some.inj hs)
      exact ⟨s, by simp only [queueMachine, hspec, Option.map_some], h⟩
  | dequeue =>
    obtain ⟨rfl, rfl⟩ := Prod.mk.inj (Option.some.inj hs)
    obtain ⟨heap', heq, hq, hreq⟩ := msgDequeue_spec h.queue
    exact ⟨_, by simp only [queueMachine, heq, Option.map_some], h.requeued hq hreq⟩
  | push pMsg =>
    simp only [listQueueMachine, Option.ite_none_right_eq_some, Option.some.injEq,
      Prod.mk.injEq] at hs
    obtain ⟨hadd, rfl, rfl⟩ := hs
    obtain ⟨heap', heq, hq, hreq⟩ := msgPush_spec h.queue (h.next_isSome hadd) hadd.2
    exact ⟨_, by simp only [queueMachine, heq, Option.map_some], h.requeued hq hreq⟩
  | extract pMsg pPrev =>
    simp only [listQueueMachine, Option.ite_none_right_eq_some, Option.some.injEq,
      Prod.mk.injEq] at hs
    obtain ⟨⟨hmem, rfl⟩, rfl, rfl⟩ := hs
    obtain ⟨as, bs, rfl⟩ := List.append_of_mem hmem
    have hnot : pMsg ∉ as := by
      have hnodup := h.queue.nodup
      rw [List.nodup_middle, List.nodup_cons] at hnodup
      exact fun hmem => hnodup.1 (List.mem_append_left _ hmem)
    have htake : ((as ++ pMsg :: bs).takeWhile fun a => a ≠ pMsg) = as := by
      rw [List.takeWhile_append_of_pos (by simpa using fun a ha => by rintro rfl; exact hnot ha)]
      simp
    have herase : (as ++ pMsg :: bs).erase pMsg = as ++ bs := by
      rw [List.erase_append_right _ hnot, List.erase_cons_head]
    obtain ⟨heap', heq, hq, hreq⟩ := msgExtract_spec h.queue
    rw [htake, herase]
    exact ⟨_, by simp only [queueMachine, heq, Option.map_some], h.requeued hq hreq⟩
  | find e =>
    obtain ⟨rfl, rfl⟩ := Prod.mk.inj (Option.some.inj hs)
    refine ⟨s, ?_, h⟩
    simp only [queueMachine, msgFindIn_spec h.queue, h.eventTest_eq, Option.map_some]
  | findDequeue e =>
    obtain ⟨rfl, rfl⟩ := Prod.mk.inj (Option.some.inj hs)
    obtain ⟨heap', heq, hq, hreq⟩ := msgFindDequeueIn_spec h.queue event e
    rw [h.eventTest_eq] at heq hq
    exact ⟨_, by simp only [queueMachine, heq, Option.map_some], h.requeued hq hreq⟩

/-- A new queue is empty. -/
theorem Represents.empty (heap₀ : Heap β) : Represents heap₀ (heap₀, none) [] := ⟨rfl, rfl⟩

/-- **The functions on the heap implement those on lists.** Every use of a queue that the machine on
lists has a run for, from the empty queue on, has a run on the heap: no access is outside the
allocated blocks, no loop goes on for ever, every function returns what it returns on lists, and at
the end the links of the queue lead through the messages of the list, with their contents as they
were. -/
theorem queueMachine_implements (event : β → UInt8) (heap₀ : Heap β) {ops : List QueueOp}
    {msgs : List Addr} {trL : List (Transition (List Addr) QueueOp QueueOut)}
    (hx : (listQueueMachine event heap₀).exec [] ops = some (trL, msgs)) :
    ∃ tr heap pQ, (queueMachine event).exec (heap₀, none) ops = some (tr, (heap, pQ)) ∧
      tr.map Transition.out = trL.map Transition.out ∧ QueueAt heap pQ msgs ∧
      heap.content = heap₀.content := by
  obtain ⟨tr, s, hx', h, hout⟩ := exec_of_implements (R := Represents heap₀)
    (fun _ _ _ _ _ h hs => h.step hs) (Represents.empty heap₀) hx
  exact ⟨tr, s.1, s.2, hx', hout, h.queue, h.content⟩

/-- Two messages are put into the queue, the second one is taken out for its event, and a third one
is refused, because the limit is zero. -/
theorem queueMachine_implements_findDequeue :
    let heap₀ : Heap UInt8 := fun pMsg =>
      if pMsg = 16 then some ⟨⟨none, 1, 0xFF⟩, 5⟩
      else if pMsg = 32 then some ⟨⟨some 7, 1, 0xFF⟩, 6⟩
      else if pMsg = 48 then some ⟨⟨none, 1, 0xFF⟩, 6⟩ else none
    ∃ tr heap pQ, (queueMachine id).exec (heap₀, none)
        [.enqueue 16, .enqueue 32, .findDequeue 6, .enqueueMax 48 0] = some (tr, (heap, pQ)) ∧
      tr.map Transition.out = [.done, .done, .msg (some 32), .added false] ∧
      QueueAt heap pQ [16] ∧ heap.content = heap₀.content :=
  @queueMachine_implements _ id _ _ [16]
    [⟨[], .enqueue 16, .done, [16]⟩, ⟨[16], .enqueue 32, .done, [16, 32]⟩,
      ⟨[16, 32], .findDequeue 6, .msg (some 32), [16]⟩,
      ⟨[16], .enqueueMax 48 0, .added false, [16]⟩] rfl

/-! ## Limits -/

/-- Messages are added with the limit `max` only. -/
def QueueOp.AddsUpTo (max : UInt8) : QueueOp → Prop
  | .enqueue _ | .push _ => False
  | .enqueueMax _ max' => max' = max
  | .dequeue | .extract _ _ | .find _ | .findDequeue _ => True

/-- How many messages get into a queue with the limit `max`. It is one more than the limit, as the
loop does not count the last message; only the limit zero lets none in. -/
def queueCapacity (max : UInt8) : ℕ := if max = 0 then 0 else max.toNat + 1

/-- A queue that is not full is one that the test against the limit lets a message into. -/
theorem lt_queueCapacity_iff {n : ℕ} {max : UInt8} :
    n < queueCapacity max ↔ n - 1 < max.toNat := by
  rw [queueCapacity]
  split_ifs with hmax
  · simp [hmax]
  · have hpos : 0 < max.toNat := by
      refine Nat.pos_of_ne_zero fun hzero => hmax ?_
      exact UInt8.toNat_inj.mp hzero
    omega

/-- **One function** does not fill the queue beyond its capacity. -/
theorem length_le_of_step {max : UInt8} {op : QueueOp} {msgs' : List Addr} {out : QueueOut}
    (hop : op.AddsUpTo max) (hle : msgs.length ≤ queueCapacity max)
    (hs : (listQueueMachine event heap₀).step msgs op = some (msgs', out)) :
    msgs'.length ≤ queueCapacity max := by
  cases op with
  | enqueue pMsg => exact absurd hop id
  | push pMsg => exact absurd hop id
  | enqueueMax pMsg max' =>
    obtain rfl : max' = max := hop
    simp only [listQueueMachine, Option.ite_none_right_eq_some] at hs
    obtain ⟨-, hs⟩ := hs
    split_ifs at hs with hmax
    · obtain ⟨rfl, -⟩ := Prod.mk.inj (Option.some.inj hs)
      have hlt := lt_queueCapacity_iff.mpr hmax
      rw [List.length_append, List.length_singleton]
      exact hlt
    · obtain ⟨rfl, -⟩ := Prod.mk.inj (Option.some.inj hs)
      exact hle
  | dequeue =>
    obtain ⟨rfl, -⟩ := Prod.mk.inj (Option.some.inj hs)
    exact le_trans (by simp) hle
  | extract pMsg pPrev =>
    simp only [listQueueMachine, Option.ite_none_right_eq_some, Option.some.injEq,
      Prod.mk.injEq] at hs
    obtain ⟨-, rfl, -⟩ := hs
    exact le_trans (List.length_erase_le) hle
  | find e =>
    obtain ⟨rfl, -⟩ := Prod.mk.inj (Option.some.inj hs)
    exact hle
  | findDequeue e =>
    obtain ⟨rfl, -⟩ := Prod.mk.inj (Option.some.inj hs)
    exact le_trans (List.length_eraseP_le) hle

/-- Messages are put into a queue one after the other, as long as it is not full. -/
theorem exec_enqueueMax (event : β → UInt8) (heap₀ : Heap β) {max : UInt8} {msgs : List Addr}
    (hnodup : msgs.Nodup) (halloc : ∀ pMsg ∈ msgs, (heap₀ pMsg).isSome)
    (hle : msgs.length ≤ queueCapacity max) :
    ∃ trL, (listQueueMachine event heap₀).exec [] (msgs.map (.enqueueMax · max)) =
      some (trL, msgs) := by
  induction msgs using List.reverseRecOn with
  | nil => exact ⟨[], rfl⟩
  | append_singleton msgs pMsg ih =>
    rw [List.nodup_append] at hnodup
    rw [List.length_append, List.length_singleton] at hle
    obtain ⟨trL, hx⟩ := ih hnodup.1 (fun a ha => halloc a (by simp [ha])) (by omega)
    have hadd : CanAdd heap₀ msgs pMsg :=
      ⟨halloc pMsg (by simp), fun hmem => hnodup.2.2 pMsg hmem pMsg (by simp) rfl⟩
    have hmax : msgs.length - 1 < max.toNat := lt_queueCapacity_iff.mp hle
    refine ⟨trL ++ [⟨msgs, .enqueueMax pMsg max, .added true, msgs ++ [pMsg]⟩], ?_⟩
    rw [List.map_append]
    exact (listQueueMachine event heap₀).exec_snoc_eq_some.mpr
      ⟨trL, msgs, _, hx, by simp only [listQueueMachine, if_pos hadd, if_pos hmax], rfl⟩

/-- **The limit of a queue, exactly.** The queues that can come about, with any uses of the
functions in which messages are added with the limit `max` only, are those of distinct messages that
are allocated, up to one more of them than the limit. The functions promise one less: a message is
to be added only if the length of the queue is less than the limit. -/
theorem queue_enqueueMax_exact (event : β → UInt8) (heap₀ : Heap β) (max : UInt8)
    (msgs : List Addr) :
    (msgs.Nodup ∧ (∀ pMsg ∈ msgs, (heap₀ pMsg).isSome) ∧ msgs.length ≤ queueCapacity max) ↔
      ∃ ops trL tr heap pQ, (∀ op ∈ ops, QueueOp.AddsUpTo max op) ∧
        (listQueueMachine event heap₀).exec [] ops = some (trL, msgs) ∧
        (queueMachine event).exec (heap₀, none) ops = some (tr, (heap, pQ)) ∧
        QueueAt heap pQ msgs := by
  constructor
  · rintro ⟨hnodup, halloc, hle⟩
    obtain ⟨trL, hxL⟩ := exec_enqueueMax event heap₀ hnodup halloc hle
    obtain ⟨tr, s, hx, h, -⟩ := exec_of_implements (R := Represents heap₀)
      (fun _ _ _ _ _ h hs => h.step hs) (Represents.empty heap₀) hxL
    refine ⟨_, trL, tr, s.1, s.2, ?_, hxL, hx, h.queue⟩
    intro op hop
    obtain ⟨pMsg, -, rfl⟩ := List.mem_map.mp hop
    rfl
  · rintro ⟨ops, trL, tr, heap, pQ, hops, hxL, -, -⟩
    obtain ⟨-, s, -, h, -⟩ := exec_of_implements (R := Represents heap₀)
      (fun _ _ _ _ _ h hs => h.step hs) (Represents.empty heap₀) hxL
    refine ⟨h.queue.nodup, fun pMsg hmem => h.isSome hmem, ?_⟩
    refine (listQueueMachine event heap₀).exec_induction
      (P := fun ops _ msgs => (∀ op ∈ ops, QueueOp.AddsUpTo max op) →
        msgs.length ≤ queueCapacity max) (fun _ => Nat.zero_le _) ?_ hxL hops
    intro ops tr msgs op msgs' out _ ih hs hops
    exact length_le_of_step (hops op (by simp)) (ih fun op' hop' => hops op' (by simp [hop'])) hs

end Machines

end SensorCollector
