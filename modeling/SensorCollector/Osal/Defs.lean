import SensorCollector.Lib.LinkedList

set_option relaxedAutoImplicit false
set_option autoImplicit false

/-!
# The operating-system port

The messages and the events of `osal_port.c`, with which the task of the MAC and the task of the
application talk to each other. A message is a block of the heap with a header before it. The header
holds the link of the queue that the message is in, so a queue is a linked list of messages.

Each task is an entry of a table: its queue, its event flags and its semaphore. To send is to put a
message into the queue of a task, to set its event and to post its semaphore.

An access to a block that is not allocated, or to an entry beyond the table, is undefined in C; here
it gives `none`. So does a loop along the links that does not end: it would take more rounds than
there are addresses.

## Main definitions

* `SensorCollector.Heap` — the blocks that are allocated.
* `SensorCollector.osalPortMsgEnqueue`, `SensorCollector.osalPortMsgDequeue` and their siblings —
  the functions on queues.
* `SensorCollector.OsalPort` — the heap and the table of the tasks.
* `SensorCollector.OsalPort.msgSend`, `SensorCollector.OsalPort.msgReceive`,
  `SensorCollector.OsalPort.setEvent`, `SensorCollector.OsalPort.clearEvent` — the functions on
  tasks.
-/

namespace SensorCollector

/-! ## Constants -/

/-- `OsalPort_SYS_EVENT_MSG`. -/
def osalPortSysEventMsg : UInt32 := 0x8000

/-- `OsalPort_SUCCESS`. -/
def osalPortSuccess : UInt8 := 0x00

/-- `OsalPort_INVALID_TASK`. -/
def osalPortInvalidTask : UInt8 := 0x03

/-- `OsalPort_MSG_BUFFER_NOT_AVAIL`. -/
def osalPortMsgBufferNotAvail : UInt8 := 0x04

/-- `OsalPort_INVALID_MSG_POINTER`. -/
def osalPortInvalidMsgPointer : UInt8 := 0x05

/-- `OsalPort_TASK_NO_TASK`. -/
def osalPortTaskNoTask : UInt8 := 0xFF

/-- `MAX_TASKS`. -/
def maxTasks : ℕ := 15

/-! ## Messages in memory -/

/-- The address of a message. `NULL` is no address. -/
abbrev Addr := UInt32

/-- The header of a message. -/
structure OsalPortMsgHdr where
  /-- The next message of the queue. -/
  next : Option Addr
  len : UInt16
  destId : UInt8
  deriving DecidableEq

/-- A block of the heap that holds a message: its header and its contents. -/
structure MsgBlock (β : Type) where
  hdr : OsalPortMsgHdr
  body : β
  deriving DecidableEq

/-- The heap: the blocks that are allocated, by the address of the message. -/
abbrev Heap (β : Type) := Addr → Option (MsgBlock β)

namespace Heap

variable {β : Type} (heap : Heap β)

/-- `OsalPort_MSG_NEXT(pMsg)`, read. -/
def next (pMsg : Addr) : Option (Option Addr) := (heap pMsg).map fun block => block.hdr.next

/-- `OsalPort_MSG_NEXT(pMsg) = next`. -/
def setNext (pMsg : Addr) (next : Option Addr) : Option (Heap β) :=
  (heap pMsg).map fun block =>
    Function.update heap pMsg (some { block with hdr := { block.hdr with next := next } })

/-- `OsalPort_MSG_ID(pMsg) = id`. -/
def setId (pMsg : Addr) (id : UInt8) : Option (Heap β) :=
  (heap pMsg).map fun block =>
    Function.update heap pMsg (some { block with hdr := { block.hdr with destId := id } })

end Heap

section Queues

variable {β : Type}

/-- `OsalPort_msgAllocate`, with the block that `OsalPort_malloc` returns and with what the caller
then writes to it: the heap and the new message. -/
def osalPortMsgAllocate (heap : Heap β) (len : UInt16) (block : Option Addr) (body : β) :
    Heap β × Option Addr :=
  if len = 0 then (heap, none)
  else
    match block with
    | some pMsg =>
      (Function.update heap pMsg (some ⟨⟨none, len, osalPortTaskNoTask⟩, body⟩), some pMsg)
    | none => (heap, none)

/-- `OsalPort_msgDeallocate`: the heap and the status. -/
def osalPortMsgDeallocate (heap : Heap β) (pMsg : Option Addr) : Option (Heap β × UInt8) :=
  match pMsg with
  | none => some (heap, osalPortInvalidMsgPointer)
  | some pMsg =>
    (heap pMsg).map fun block =>
      -- a message that is in a queue is not to be freed
      if block.hdr.destId ≠ osalPortTaskNoTask then (heap, osalPortMsgBufferNotAvail)
      else (Function.update heap pMsg none, osalPortSuccess)

/-- `OsalPort_free`, for a block that is not a message; its header is not there. -/
def osalPortFree (heap : Heap β) (buf : Addr) : Option (Heap β) :=
  (heap buf).map fun _ => Function.update heap buf none

/-! ## Queues -/

/-- The loop along a queue up to the first message that it is to stop at. -/
def walkQueue (heap : Heap β) (stop : Addr → Option Bool) (pQ : Option Addr) :
    Option (LinkedList.Walk Addr) :=
  LinkedList.walk heap.next stop UInt32.size 0 none pQ

/-- The test `OsalPort_MSG_NEXT(list) == NULL`, which ends the loops to the last message. -/
def Heap.isLast (heap : Heap β) (pMsg : Addr) : Option Bool :=
  (heap.next pMsg).map fun q => decide (q = none)

/-- `OsalPort_msgEnqueue`: the heap and the queue. -/
def osalPortMsgEnqueue (heap : Heap β) (pQ pMsg : Option Addr) :
    Option (Heap β × Option Addr) :=
  match pMsg with
  | none => some (heap, pQ)
  | some pMsg => do
    let heap ← heap.setNext pMsg none
    match pQ with
    | none => return (heap, some pMsg)
    | some _ => do
      let list ← walkQueue heap heap.isLast pQ
      return (← heap.setNext (← list.cell) (some pMsg), pQ)

/-- `OsalPort_msgEnqueueMax`: the heap, the queue, and whether the message was put into it. The loop
counts the links it follows, which are one less than the messages. -/
def osalPortMsgEnqueueMax (heap : Heap β) (pQ pMsg : Option Addr) (max : UInt8) :
    Option (Heap β × Option Addr × Bool) := do
  let qCount ← match pQ with
    | none => some 0
    | some _ => (walkQueue heap heap.isLast pQ).map LinkedList.Walk.rounds
  if qCount < max.toNat then do
    let r ← osalPortMsgEnqueue heap pQ pMsg
    return (r.1, r.2, true)
  else return (heap, pQ, false)

/-- `OsalPort_msgDequeue`: the heap, the queue, and the message. -/
def osalPortMsgDequeue (heap : Heap β) (pQ : Option Addr) :
    Option (Heap β × Option Addr × Option Addr) :=
  match pQ with
  | none => some (heap, none, none)
  | some pMsg => do
    let next ← heap.next pMsg
    let heap ← heap.setNext pMsg none
    return (← heap.setId pMsg osalPortTaskNoTask, next, some pMsg)

/-- `OsalPort_msgPush`: the heap and the queue. -/
def osalPortMsgPush (heap : Heap β) (pQ : Option Addr) (pMsg : Addr) :
    Option (Heap β × Option Addr) :=
  (heap.setNext pMsg pQ).map fun heap => (heap, some pMsg)

/-- `OsalPort_msgExtract`: the heap and the queue. -/
def osalPortMsgExtract (heap : Heap β) (pQ : Option Addr) (pMsg : Addr) (pPrev : Option Addr) :
    Option (Heap β × Option Addr) := do
  let next ← heap.next pMsg
  let r ←
    if some pMsg = pQ then some (heap, next)
    else pPrev.bind fun pPrev => (heap.setNext pPrev next).map fun heap => (heap, pQ)
  let heap ← r.1.setNext pMsg none
  return (← heap.setId pMsg osalPortTaskNoTask, r.2)

/-- The test of a message for its event, where `event` is the first byte of the contents. -/
def Heap.hasEvent (heap : Heap β) (event : β → UInt8) (e : UInt8) (pMsg : Addr) : Option Bool :=
  (heap pMsg).map fun block => decide (event block.body = e)

/-- The loop of `OsalPort_msgFind`: the first message of the queue with the event. -/
def osalPortMsgFindIn (heap : Heap β) (event : β → UInt8) (pQ : Option Addr) (e : UInt8) :
    Option (Option Addr) :=
  (walkQueue heap (heap.hasEvent event e) pQ).map LinkedList.Walk.cell

/-- The loop of `OsalPort_msgFindDequeue`: the heap, the queue, and the message that is taken out of
it. -/
def osalPortMsgFindDequeueIn (heap : Heap β) (event : β → UInt8) (pQ : Option Addr) (e : UInt8) :
    Option (Heap β × Option Addr × Option Addr) := do
  let r ← walkQueue heap (heap.hasEvent event e) pQ
  match r.cell with
  | none => return (heap, pQ, none)
  | some pHdr => do
    let next ← heap.next pHdr
    let q ← match r.prev with
      | none => some (heap, next)
      | some pPrev => (heap.setNext pPrev next).map fun heap => (heap, pQ)
    let heap ← q.1.setNext pHdr none
    return (← heap.setId pHdr osalPortTaskNoTask, q.2, some pHdr)

end Queues

/-! ## Tasks -/

/-- A semaphore, with the number of times it can be taken. -/
structure Semaphore where
  /-- A binary semaphore counts to one only. -/
  binary : Bool
  count : ℕ
  deriving DecidableEq

namespace Semaphore

/-- `Semaphore_post`. -/
def post (sem : Semaphore) : Semaphore :=
  { sem with count := if sem.binary then 1 else sem.count + 1 }

/-- `Semaphore_pend`, as far as it does not wait. -/
def pend (sem : Semaphore) : Option Semaphore :=
  if 0 < sem.count then some { sem with count := sem.count - 1 } else none

end Semaphore

/-- An entry of the table of tasks, with the event flags it points to. -/
structure TaskEntry where
  taskId : UInt8
  taskHndl : ℕ
  qHandle : Option Addr
  taskSem : Option Semaphore
  eventFlag : UInt32
  deriving DecidableEq

/-- Set event flags of a task and post its semaphore, if it has one. -/
def TaskEntry.raise (task : TaskEntry) (eventFlag : UInt32) : TaskEntry :=
  { task with
    eventFlag := task.eventFlag ||| eventFlag
    taskSem := task.taskSem.map Semaphore.post }

/-- Clear event flags of a task. -/
def TaskEntry.clear (task : TaskEntry) (eventFlag : UInt32) : TaskEntry :=
  { task with eventFlag := task.eventFlag &&& ~~~eventFlag }

/-- The first entry with a property is changed. -/
def modifyFirst {α : Type} (p : α → Bool) (f : α → α) : List α → List α
  | [] => []
  | a :: as => if p a then f a :: as else a :: modifyFirst p f as

/-- The heap, and the table of tasks with the number of tasks. -/
structure OsalPort (β : Type) where
  heap : Heap β
  /-- The entries of the table that are in use. -/
  taskTbl : List TaskEntry
  taskCnt : UInt8

namespace OsalPort

variable {β : Type} (osal : OsalPort β)

/-- `OsalPort_registerTask`: the table and the number of the task. -/
def registerTask (taskHndl : ℕ) (taskSem : Option Semaphore) (eventFlag : UInt32) :
    OsalPort β × UInt8 :=
  let taskTbl :=
    if osal.taskCnt.toNat < maxTasks then
      osal.taskTbl ++ [⟨osal.taskCnt, taskHndl, none, taskSem, eventFlag⟩]
    else osal.taskTbl
  let taskCnt := osal.taskCnt + 1
  ({ osal with taskTbl := taskTbl, taskCnt := taskCnt }, taskCnt - 1)

/-- A loop over all tasks stays inside the table. -/
def LoopsInside : Prop := osal.taskCnt.toNat ≤ osal.taskTbl.length

instance : Decidable osal.LoopsInside := inferInstanceAs (Decidable (_ ≤ _))

/-- `OsalPort_setEvent`: the tasks and the status. -/
def setEvent (destinationTask : UInt8) (eventFlag : UInt32) : Option (OsalPort β × UInt8) :=
  if osal.LoopsInside then
    some ({ osal with
        taskTbl := osal.taskTbl.map fun task =>
          if task.taskId = destinationTask then task.raise eventFlag else task },
      if osal.taskTbl.any fun task => task.taskId = destinationTask then osalPortSuccess
      else osalPortInvalidTask)
  else none

/-- `OsalPort_clearEvent`. The running task has the handle `self`. -/
def clearEvent (self : ℕ) (taskID : UInt8) (eventFlag : UInt32) : Option (OsalPort β) :=
  let isMeant (task : TaskEntry) : Bool :=
    taskID ≠ osalPortTaskNoTask ∧ task.taskId = taskID ∨
      taskID = osalPortTaskNoTask ∧ task.taskHndl = self
  if osal.taskTbl.any isMeant ∨ osal.LoopsInside then
    some { osal with taskTbl := modifyFirst isMeant (·.clear eventFlag) osal.taskTbl }
  else none

/-- `OsalPort_msgSend`: the tasks and the status. -/
def msgSend (destinationTask : UInt8) (pMsg : Option Addr) : Option (OsalPort β × UInt8) :=
  match pMsg with
  | none => some (osal, osalPortInvalidMsgPointer)
  | some pMsg =>
    match osal.taskTbl.findIdx? fun task => task.taskId = destinationTask with
    | none => if osal.LoopsInside then some (osal, osalPortInvalidTask) else none
    | some taskIdx => do
      let task ← osal.taskTbl[taskIdx]?
      let (heap, qHandle) ← osalPortMsgEnqueue osal.heap task.qHandle (some pMsg)
      let osal : OsalPort β := { osal with
        heap := heap
        taskTbl := osal.taskTbl.set taskIdx { task with qHandle := qHandle } }
      let (osal, _) ← osal.setEvent destinationTask osalPortSysEventMsg
      return (osal, osalPortSuccess)

/-- The first part of `OsalPort_msgReceive` for an entry: take a message out of its queue. -/
def msgTake (taskIdx : ℕ) : Option (OsalPort β × Option Addr) := do
  let task ← osal.taskTbl[taskIdx]?
  let (heap, qHandle, pMsg) ← osalPortMsgDequeue osal.heap task.qHandle
  return ({ osal with
    heap := heap
    taskTbl := osal.taskTbl.set taskIdx { task with qHandle := qHandle } }, pMsg)

/-- The second part: the test `OsalPort_MSG_Q_EMPTY`. -/
def msgQEmpty (taskIdx : ℕ) : Option Bool :=
  osal.taskTbl[taskIdx]?.map fun task => task.qHandle.isNone

/-- The third part: the event of the messages is cleared if the queue was empty, and is set
otherwise. -/
def msgSignal (self taskIdx : ℕ) (isEmpty : Bool) : Option (OsalPort β) :=
  if isEmpty then osal.clearEvent self (UInt8.ofNat taskIdx) osalPortSysEventMsg
  else (osal.setEvent (UInt8.ofNat taskIdx) osalPortSysEventMsg).map Prod.fst

/-- The body of the loop of `OsalPort_msgReceive` over the tasks. -/
def msgReceiveBody (self : ℕ) (destinationTask : UInt8) (r : OsalPort β × Option Addr)
    (taskIdx : ℕ) : Option (OsalPort β × Option Addr) := do
  let task ← r.1.taskTbl[taskIdx]?
  if task.taskId = destinationTask then do
    let (osal, pMsg) ← r.1.msgTake taskIdx
    let osal ← osal.msgSignal self taskIdx (← osal.msgQEmpty taskIdx)
    return (osal, pMsg)
  else return r

/-- `OsalPort_msgReceive`: the tasks and the message. The loop goes on after it has found the task.
-/
def msgReceive (self : ℕ) (destinationTask : UInt8) : Option (OsalPort β × Option Addr) :=
  (List.range osal.taskCnt.toNat).foldlM (msgReceiveBody self destinationTask) (osal, none)

/-- `OsalPort_msgFind`: the first message of the task with the event. -/
def msgFind (event : β → UInt8) (taskId : UInt8) (e : UInt8) : Option (Option Addr) :=
  match osal.taskTbl.find? fun task => task.taskId = taskId with
  | none => if osal.LoopsInside then some none else none
  | some task => osalPortMsgFindIn osal.heap event task.qHandle e

/-- `OsalPort_msgFindDequeue`: the tasks and the message. -/
def msgFindDequeue (event : β → UInt8) (taskId : UInt8) (e : UInt8) :
    Option (OsalPort β × Option Addr) :=
  match osal.taskTbl.findIdx? fun task => task.taskId = taskId with
  | none => if osal.LoopsInside then some (osal, none) else none
  | some taskIdx => do
    let task ← osal.taskTbl[taskIdx]?
    let (heap, qHandle, pHdr) ← osalPortMsgFindDequeueIn osal.heap event task.qHandle e
    return ({ osal with
      heap := heap
      taskTbl := osal.taskTbl.set taskIdx { task with qHandle := qHandle } }, pHdr)

/-- `OsalPort_waitEvent`: take the semaphore of the task and read its event flags. It is undefined
while the semaphore cannot be taken. -/
def waitEvent (taskId : UInt8) : Option (OsalPort β × UInt32) :=
  match osal.taskTbl.findIdx? fun task => task.taskId = taskId with
  | none => if osal.LoopsInside then some (osal, 0) else none
  | some taskIdx => do
    let task ← osal.taskTbl[taskIdx]?
    let taskSem ← (← task.taskSem).pend
    return ({ osal with
      taskTbl := osal.taskTbl.set taskIdx { task with taskSem := some taskSem } }, task.eventFlag)

/-- `Semaphore_post`, for the semaphore of a task. -/
def semPost (taskIdx : ℕ) : Option (OsalPort β) := do
  let task ← osal.taskTbl[taskIdx]?
  return { osal with
    taskTbl := osal.taskTbl.set taskIdx
      { task with taskSem := task.taskSem.map Semaphore.post } }

/-- `Semaphore_pend`, for the semaphore of a task. It is undefined while it waits. -/
def semPend (taskIdx : ℕ) : Option (OsalPort β) := do
  let task ← osal.taskTbl[taskIdx]?
  let taskSem ← (← task.taskSem).pend
  return { osal with
    taskTbl := osal.taskTbl.set taskIdx { task with taskSem := some taskSem } }

end OsalPort

end SensorCollector
