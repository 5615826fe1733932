import SensorCollector.Osal.Queue

set_option relaxedAutoImplicit false
set_option autoImplicit false

/-!
# Messages and events of tasks

What the functions on tasks do to the entry of the task that they are for. The number of a task is
its place in the table, as long as no more tasks have been registered than there is room for.

`OsalPort_msgReceive` is not a critical section: between its parts other tasks and interrupts can
run. If none does, it is its three parts in a row.

## Main definitions

* `SensorCollector.OsalPort.Registered` — the table is the one that `OsalPort_registerTask` fills.
* `SensorCollector.OsalPort.setTask` — the table with another entry for a task.
* `SensorCollector.OsalPort.Serves` — the queue and the semaphore of a task.

## Main results

* `SensorCollector.OsalPort.setEvent_spec` and its siblings — the functions on tasks, for the entry
  of a task.
* `SensorCollector.OsalPort.msgReceive_spec` — `OsalPort_msgReceive` when nothing runs between its
  parts.
* `SensorCollector.OsalPort.Serves.findDequeue` — `OsalPort_msgFindDequeue` takes out of the queue
  of a task what `OsalPort_msgFind` finds there.
-/

namespace SensorCollector

/-! ## The first entry with a property -/

/-- If the first entry with a property is at place `i`, it is this one that is changed. -/
theorem modifyFirst_eq_set {α : Type} {p : α → Bool} {f : α → α} {as : List α} {i : ℕ} {a : α}
    (hget : as[i]? = some a) (ha : p a = true)
    (hbefore : ∀ j b, j < i → as[j]? = some b → p b = false) :
    modifyFirst p f as = as.set i (f a) := by
  induction as generalizing i with
  | nil => simp at hget
  | cons b as ih =>
    cases i with
    | zero =>
      obtain rfl : b = a := by simpa using hget
      rw [modifyFirst, if_pos ha, List.set_cons_zero]
    | succ i =>
      have hb : p b = false := hbefore 0 b (Nat.succ_pos i) rfl
      rw [modifyFirst, if_neg (by simp [hb]), List.set_cons_succ]
      rw [List.getElem?_cons_succ] at hget
      rw [ih hget fun j c hj hc => hbefore (j + 1) c (by omega) (by simpa using hc)]

namespace OsalPort

variable {β : Type} {osal : OsalPort β}

/-- The number of the task at place `i`. -/
def taskIdOf (i : ℕ) : UInt8 := UInt8.ofNat i

/-- The table is the one that `OsalPort_registerTask` fills: the number of a task is its place. -/
structure Registered (osal : OsalPort β) : Prop where
  cnt : osal.taskCnt.toNat = osal.taskTbl.length
  room : osal.taskTbl.length ≤ maxTasks
  ids : ∀ i task, osal.taskTbl[i]? = some task → task.taskId = taskIdOf i

/-- The table with another entry for the task at place `i`. -/
def setTask (osal : OsalPort β) (i : ℕ) (task : TaskEntry) : OsalPort β :=
  { osal with taskTbl := osal.taskTbl.set i task }

@[simp] theorem heap_setTask (i : ℕ) (task : TaskEntry) :
    (osal.setTask i task).heap = osal.heap := rfl

@[simp] theorem taskTbl_setTask (i : ℕ) (task : TaskEntry) :
    (osal.setTask i task).taskTbl = osal.taskTbl.set i task := rfl

/-- A loop over all tasks stays inside the table. -/
theorem Registered.loopsInside (h : osal.Registered) : osal.LoopsInside := h.cnt.le

/-- An entry of the table is at one of its places. -/
theorem Registered.lt (h : osal.Registered) {i : ℕ} {task : TaskEntry}
    (hget : osal.taskTbl[i]? = some task) : i < maxTasks :=
  lt_of_lt_of_le (List.getElem?_eq_some_iff.mp hget).1 h.room

/-- Two tasks at different places have different numbers. -/
theorem taskIdOf_inj {i j : ℕ} (hi : i < maxTasks) (hj : j < maxTasks) :
    taskIdOf i = taskIdOf j ↔ i = j := by
  constructor
  · intro h
    have hmod := congrArg UInt8.toNat h
    rw [maxTasks] at hi hj
    simp only [taskIdOf, UInt8.toNat_ofNat'] at hmod
    omega
  · rintro rfl
    rfl

/-- The entries with the number of the task at place `i`. -/
theorem Registered.taskId_eq_iff (h : osal.Registered) {i j : ℕ} {task : TaskEntry}
    (hi : i < maxTasks) (hget : osal.taskTbl[j]? = some task) :
    task.taskId = taskIdOf i ↔ j = i := by
  rw [h.ids j task hget, taskIdOf_inj (h.lt hget) hi]

/-- Another entry with the same number keeps the table registered. -/
theorem Registered.setTask (h : osal.Registered) {i : ℕ} {task : TaskEntry}
    (hid : task.taskId = taskIdOf i) : (osal.setTask i task).Registered where
  cnt := by rw [taskTbl_setTask, List.length_set]; exact h.cnt
  room := by rw [taskTbl_setTask, List.length_set]; exact h.room
  ids j task' hget := by
    rw [taskTbl_setTask, List.getElem?_set] at hget
    split_ifs at hget with hj
    · rw [← hj, ← Option.some.inj hget, hid]
    · exact h.ids j task' hget

/-- A new task is registered, as long as there is room for it. -/
theorem Registered.registerTask (h : osal.Registered) (hroom : osal.taskTbl.length < maxTasks)
    (taskHndl : ℕ) (taskSem : Option Semaphore) (eventFlag : UInt32) :
    osal.registerTask taskHndl taskSem eventFlag =
        ({ osal with
            taskTbl := osal.taskTbl ++
              [⟨taskIdOf osal.taskTbl.length, taskHndl, none, taskSem, eventFlag⟩]
            taskCnt := osal.taskCnt + 1 }, taskIdOf osal.taskTbl.length) ∧
      (osal.registerTask taskHndl taskSem eventFlag).1.Registered := by
  have hcnt : osal.taskCnt = taskIdOf osal.taskTbl.length := by
    rw [← h.cnt, taskIdOf, UInt8.ofNat_toNat]
  have hlt : osal.taskCnt.toNat < maxTasks := h.cnt ▸ hroom
  have heq : osal.registerTask taskHndl taskSem eventFlag =
      ({ osal with
          taskTbl := osal.taskTbl ++
            [⟨taskIdOf osal.taskTbl.length, taskHndl, none, taskSem, eventFlag⟩]
          taskCnt := osal.taskCnt + 1 }, taskIdOf osal.taskTbl.length) := by
    simp only [OsalPort.registerTask, if_pos hlt, ← hcnt, UInt8.add_sub_cancel]
  refine ⟨heq, ?_⟩
  rw [heq]
  refine ⟨?_, ?_, ?_⟩
  · simp only [List.length_append, List.length_singleton]
    rw [UInt8.toNat_add, h.cnt]
    rw [maxTasks] at hroom
    show (osal.taskTbl.length + 1) % 256 = _
    omega
  · simp only [List.length_append, List.length_singleton]
    exact hroom
  · intro j task hget
    simp only [List.getElem?_append] at hget
    split_ifs at hget with hj
    · exact h.ids j task hget
    · obtain ⟨hj', rfl⟩ := List.getElem?_eq_some_iff.mp hget
      simp only [List.length_singleton] at hj'
      have : j = osal.taskTbl.length := by omega
      subst this
      simp

/-! ## The functions on tasks -/

/-- The first entry with the number of a task is the entry of this task. -/
theorem Registered.findIdx?_eq (h : osal.Registered) {i : ℕ} {task : TaskEntry}
    (hget : osal.taskTbl[i]? = some task) :
    (osal.taskTbl.findIdx? fun task => task.taskId = taskIdOf i) = some i := by
  obtain ⟨hi, rfl⟩ := List.getElem?_eq_some_iff.mp hget
  rw [List.findIdx?_eq_some_iff_getElem]
  refine ⟨hi, by simpa using h.ids i _ hget, fun j hj => ?_⟩
  have hget' : osal.taskTbl[j]? = some osal.taskTbl[j] := List.getElem?_eq_getElem _
  have hne : j ≠ i := by omega
  simpa [h.taskId_eq_iff (h.lt hget) hget'] using hne

/-- **`OsalPort_setEvent`** sets flags of the task and posts its semaphore. -/
theorem setEvent_spec (h : osal.Registered) {i : ℕ} {task : TaskEntry}
    (hget : osal.taskTbl[i]? = some task) (eventFlag : UInt32) :
    osal.setEvent (taskIdOf i) eventFlag =
      some (osal.setTask i (task.raise eventFlag), osalPortSuccess) := by
  have hmap : (osal.taskTbl.map fun task =>
      if task.taskId = taskIdOf i then task.raise eventFlag else task) =
      osal.taskTbl.set i (task.raise eventFlag) := by
    apply List.ext_getElem?
    intro j
    rw [List.getElem?_map, List.getElem?_set]
    by_cases hj : i = j
    · subst hj
      have hlt := (List.getElem?_eq_some_iff.mp hget).1
      rw [hget, Option.map_some, if_pos (h.ids i task hget), if_pos rfl, if_pos hlt]
    · rw [if_neg hj]
      cases hget' : osal.taskTbl[j]? with
      | none => rfl
      | some task' =>
        rw [Option.map_some, if_neg]
        rw [h.taskId_eq_iff (h.lt hget) hget']
        exact Ne.symm hj
  have hany : (osal.taskTbl.any fun task => task.taskId = taskIdOf i) = true :=
    List.any_eq_true.mpr
      ⟨task, List.mem_of_getElem? hget, by simpa using h.ids i task hget⟩
  rw [setEvent, if_pos h.loopsInside, hmap, if_pos hany]
  rfl

/-- **`OsalPort_clearEvent`** clears flags of the task. -/
theorem clearEvent_spec (h : osal.Registered) {i : ℕ} {task : TaskEntry}
    (hget : osal.taskTbl[i]? = some task) (self : ℕ) (eventFlag : UInt32) :
    osal.clearEvent self (taskIdOf i) eventFlag =
      some (osal.setTask i (task.clear eventFlag)) := by
  have hi := h.lt hget
  have hno : taskIdOf i ≠ osalPortTaskNoTask := by
    intro heq
    have hmod := congrArg UInt8.toNat heq
    rw [maxTasks] at hi
    simp only [taskIdOf, UInt8.toNat_ofNat', osalPortTaskNoTask] at hmod
    have : (0xFF : UInt8).toNat = 255 := rfl
    omega
  have hset := modifyFirst_eq_set (f := (·.clear eventFlag))
    (p := fun task : TaskEntry => decide (taskIdOf i ≠ osalPortTaskNoTask ∧
      task.taskId = taskIdOf i ∨ taskIdOf i = osalPortTaskNoTask ∧ task.taskHndl = self)) hget
    (by simp [hno, h.ids i task hget]) (fun j task' hj hget' => by
      have hne : j ≠ i := by omega
      simp [hno, h.taskId_eq_iff hi hget', hne])
  rw [clearEvent]
  simp only [hset]
  rw [if_pos (Or.inr h.loopsInside)]
  rfl

/-- **`OsalPort_msgSend`** puts a message at the end of the queue of the task, sets its event and
posts its semaphore. -/
theorem msgSend_spec (h : osal.Registered) {i : ℕ} {task : TaskEntry}
    (hget : osal.taskTbl[i]? = some task) {msgs : List Addr} {pMsg : Addr}
    (hq : QueueAt osal.heap task.qHandle msgs) (halloc : ∃ q, osal.heap.next pMsg = some q)
    (hnew : pMsg ∉ msgs) :
    ∃ heap', osal.msgSend (taskIdOf i) (some pMsg) =
        some ({ osal with heap := heap' }.setTask i ({ task with
          qHandle := (msgs ++ [pMsg]).head? }.raise osalPortSysEventMsg), osalPortSuccess) ∧
      QueueAt heap' (msgs ++ [pMsg]).head? (msgs ++ [pMsg]) ∧
      osal.heap.Requeued heap' (pMsg :: msgs) := by
  obtain ⟨heap', henq, hq', hreq⟩ := msgEnqueue_spec hq halloc hnew
  refine ⟨heap', ?_, hq', hreq⟩
  let task' : TaskEntry := { task with qHandle := (msgs ++ [pMsg]).head? }
  let osal' : OsalPort β := { osal with heap := heap' }.setTask i task'
  have hreg : ({ osal with heap := heap' } : OsalPort β).Registered := ⟨h.cnt, h.room, h.ids⟩
  have hreg' : osal'.Registered := hreg.setTask (h.ids i task hget)
  have hget' : osal'.taskTbl[i]? = some task' := by
    simp [osal', (List.getElem?_eq_some_iff.mp hget).1]
  have hset := setEvent_spec hreg' hget' osalPortSysEventMsg
  have hset' : osal'.setTask i (task'.raise osalPortSysEventMsg) =
      ({ osal with heap := heap' } : OsalPort β).setTask i
        (task'.raise osalPortSysEventMsg) := by
    simp [osal', OsalPort.setTask, List.set_set]
  rw [hset'] at hset
  simp only [msgSend, h.findIdx?_eq hget, hget, henq, Option.bind_eq_bind, Option.bind_some]
  exact congrArg (fun r : Option (OsalPort β × UInt8) =>
    r.bind fun r => some (r.1, osalPortSuccess)) hset

/-- **The first part of `OsalPort_msgReceive`** takes the first message out of the queue. -/
theorem msgTake_spec {i : ℕ} {task : TaskEntry} (hget : osal.taskTbl[i]? = some task)
    {msgs : List Addr} (hq : QueueAt osal.heap task.qHandle msgs) :
    ∃ heap', osal.msgTake i = some ({ osal with heap := heap' }.setTask i
          { task with qHandle := msgs.tail.head? }, msgs.head?) ∧
      QueueAt heap' msgs.tail.head? msgs.tail ∧ osal.heap.Requeued heap' msgs := by
  obtain ⟨heap', hdeq, hq', hreq⟩ := msgDequeue_spec hq
  refine ⟨heap', ?_, hq', hreq⟩
  simp only [msgTake, hget, hdeq, Option.bind_eq_bind, Option.bind_some]
  rfl

/-- **The second part** tests whether messages are left. -/
theorem msgQEmpty_spec {i : ℕ} {task : TaskEntry} (hget : osal.taskTbl[i]? = some task)
    {msgs : List Addr} (hq : QueueAt osal.heap task.qHandle msgs) :
    osal.msgQEmpty i = some (decide (msgs = [])) := by
  rw [msgQEmpty, hget, Option.map_some, LinkedList.Chain.eq_head? hq]
  cases msgs <;> simp

/-- **The third part** clears the event of the messages, or sets it and posts the semaphore. -/
theorem msgSignal_spec (h : osal.Registered) {i : ℕ} {task : TaskEntry}
    (hget : osal.taskTbl[i]? = some task) (self : ℕ) (isEmpty : Bool) :
    osal.msgSignal self i isEmpty = some (osal.setTask i
      (if isEmpty then task.clear osalPortSysEventMsg else task.raise osalPortSysEventMsg)) := by
  cases isEmpty with
  | true => exact clearEvent_spec h hget self osalPortSysEventMsg
  | false => exact congrArg (Option.map Prod.fst) (setEvent_spec h hget osalPortSysEventMsg)

/-- The loop of `OsalPort_msgReceive` over tasks with other numbers does nothing. -/
theorem msgReceive_others (h : osal.Registered) {i : ℕ} (hi : i < maxTasks) (self : ℕ)
    (pMsg : Option Addr) {idxs : List ℕ}
    (hidxs : ∀ j ∈ idxs, j < osal.taskTbl.length ∧ j ≠ i) :
    idxs.foldlM (msgReceiveBody self (taskIdOf i)) (osal, pMsg) = some (osal, pMsg) := by
  induction idxs with
  | nil => rfl
  | cons j idxs ih =>
    obtain ⟨hj, hne⟩ := hidxs j (by simp)
    have hget : osal.taskTbl[j]? = some osal.taskTbl[j] := List.getElem?_eq_getElem hj
    have hid : ¬ osal.taskTbl[j].taskId = taskIdOf i := by
      rw [h.taskId_eq_iff hi hget]
      exact hne
    have hbody : msgReceiveBody self (taskIdOf i) (osal, pMsg) j = some (osal, pMsg) := by
      simp only [msgReceiveBody, hget, Option.bind_eq_bind, Option.bind_some, if_neg hid,
        Option.pure_def]
    rw [List.foldlM_cons, hbody]
    exact ih fun j' hj' => hidxs j' (by simp [hj'])

/-- The entry that `OsalPort_msgReceive` leaves, with the messages that are left in the queue. -/
def receivedEntry (task : TaskEntry) (msgs : List Addr) : TaskEntry :=
  if msgs = [] then { task with qHandle := msgs.head? }.clear osalPortSysEventMsg
  else { task with qHandle := msgs.head? }.raise osalPortSysEventMsg

/-- The loop of `OsalPort_msgReceive` at the task itself. -/
theorem msgReceive_own (h : osal.Registered) {i : ℕ} {task : TaskEntry}
    (hget : osal.taskTbl[i]? = some task) (self : ℕ) (r : Option Addr) {msgs : List Addr}
    (hq : QueueAt osal.heap task.qHandle msgs) :
    ∃ heap', msgReceiveBody self (taskIdOf i) (osal, r) i =
        some ({ osal with heap := heap' }.setTask i (receivedEntry task msgs.tail), msgs.head?) ∧
      QueueAt heap' msgs.tail.head? msgs.tail ∧ osal.heap.Requeued heap' msgs := by
  obtain ⟨heap', htake, hq', hreq⟩ := msgTake_spec hget hq
  refine ⟨heap', ?_, hq', hreq⟩
  let taken : OsalPort β := { osal with heap := heap' }.setTask i
    { task with qHandle := msgs.tail.head? }
  have hreg : ({ osal with heap := heap' } : OsalPort β).Registered := ⟨h.cnt, h.room, h.ids⟩
  have htaken : taken.Registered := hreg.setTask (h.ids i task hget)
  have hget' : taken.taskTbl[i]? = some { task with qHandle := msgs.tail.head? } := by
    simp [taken, (List.getElem?_eq_some_iff.mp hget).1]
  have hempty : taken.msgQEmpty i = some (decide (msgs.tail = [])) := msgQEmpty_spec hget' hq'
  have hsignal : taken.msgSignal self i (decide (msgs.tail = [])) =
      some ({ osal with heap := heap' }.setTask i (receivedEntry task msgs.tail)) := by
    rw [msgSignal_spec htaken hget']
    simp only [decide_eq_true_eq, receivedEntry, taken, OsalPort.setTask, List.set_set]
  simp only [msgReceiveBody, hget, htake, Option.bind_eq_bind, Option.bind_some,
    if_pos (h.ids i task hget)]
  show ((taken.msgQEmpty i).bind fun isEmpty => (taken.msgSignal self i isEmpty).bind _) = _
  rw [hempty, Option.bind_some, hsignal]
  rfl

/-- **`OsalPort_msgReceive`**, when nothing runs between its parts, takes the first message out of
the queue of the task. Its event is then set if and only if messages are left.

**Proof sketch.** The loop does its work when it comes to the task; before and after that it does
nothing. -/
theorem msgReceive_spec (h : osal.Registered) {i : ℕ} {task : TaskEntry}
    (hget : osal.taskTbl[i]? = some task) (self : ℕ) {msgs : List Addr}
    (hq : QueueAt osal.heap task.qHandle msgs) :
    ∃ heap', osal.msgReceive self (taskIdOf i) =
        some ({ osal with heap := heap' }.setTask i (receivedEntry task msgs.tail), msgs.head?) ∧
      QueueAt heap' msgs.tail.head? msgs.tail ∧ osal.heap.Requeued heap' msgs := by
  obtain ⟨heap', hbody, hq', hreq⟩ := msgReceive_own h hget self none hq
  refine ⟨heap', ?_, hq', hreq⟩
  have hi := (List.getElem?_eq_some_iff.mp hget).1
  have hentry : (receivedEntry task msgs.tail).taskId = taskIdOf i := by
    rw [receivedEntry]
    split_ifs <;> exact h.ids i task hget
  have hreg : ({ osal with heap := heap' } : OsalPort β).Registered := ⟨h.cnt, h.room, h.ids⟩
  -- the places before and after the one of the task
  obtain ⟨as, bs, hrange⟩ := List.append_of_mem (List.mem_range.mpr (h.cnt ▸ hi))
  have hnodup : (as ++ i :: bs).Nodup := hrange ▸ List.nodup_range
  rw [List.nodup_middle, List.nodup_cons] at hnodup
  have hother : ∀ j ∈ as ++ bs, j < osal.taskTbl.length ∧ j ≠ i := by
    intro j hj
    have hmem : j ∈ List.range osal.taskCnt.toNat := by
      rw [hrange]
      simp only [List.mem_append, List.mem_cons] at hj ⊢
      tauto
    rw [h.cnt, List.mem_range] at hmem
    exact ⟨hmem, by rintro rfl; exact hnodup.1 hj⟩
  rw [msgReceive, hrange, List.foldlM_append,
    msgReceive_others h (h.lt hget) self none fun j hj => hother j (by simp [hj])]
  rw [Option.bind_eq_bind, Option.bind_some, List.foldlM_cons, hbody, Option.bind_eq_bind,
    Option.bind_some]
  refine msgReceive_others (hreg.setTask hentry) (h.lt hget) self _ fun j hj => ?_
  rw [taskTbl_setTask, List.length_set]
  exact hother j (by simp [hj])

/-- The first entry with the number of a task, as a value. -/
theorem Registered.find?_eq (h : osal.Registered) {i : ℕ} {task : TaskEntry}
    (hget : osal.taskTbl[i]? = some task) :
    (osal.taskTbl.find? fun task => task.taskId = taskIdOf i) = some task := by
  have hidx := h.findIdx?_eq hget
  rw [List.findIdx?_eq_some_iff_getElem] at hidx
  obtain ⟨hi, hid, hbefore⟩ := hidx
  obtain ⟨-, rfl⟩ := List.getElem?_eq_some_iff.mp hget
  exact List.find?_eq_some_iff_getElem.mpr
    ⟨hid, i, hi, rfl, fun j hj => by simpa using hbefore j hj⟩

/-- **`OsalPort_msgFind`** returns the first message with the event in the queue of the task. -/
theorem msgFind_spec (h : osal.Registered) {i : ℕ} {task : TaskEntry}
    (hget : osal.taskTbl[i]? = some task) {msgs : List Addr}
    (hq : QueueAt osal.heap task.qHandle msgs) (event : β → UInt8) (e : UInt8) :
    osal.msgFind event (taskIdOf i) e = some (msgs.find? (eventTest osal.heap event e)) := by
  rw [msgFind, h.find?_eq hget]
  exact msgFindIn_spec hq event e

/-- **`OsalPort_msgFindDequeue`** takes the first message with the event out of the queue of the
task. The event of the messages and the semaphore of the task stay as they are, whether messages are
left or not. -/
theorem msgFindDequeue_spec (h : osal.Registered) {i : ℕ} {task : TaskEntry}
    (hget : osal.taskTbl[i]? = some task) {msgs : List Addr}
    (hq : QueueAt osal.heap task.qHandle msgs) (event : β → UInt8) (e : UInt8) :
    ∃ heap', osal.msgFindDequeue event (taskIdOf i) e =
        some ({ osal with heap := heap' }.setTask i
            { task with qHandle := (msgs.eraseP (eventTest osal.heap event e)).head? },
          msgs.find? (eventTest osal.heap event e)) ∧
      QueueAt heap' (msgs.eraseP (eventTest osal.heap event e)).head?
        (msgs.eraseP (eventTest osal.heap event e)) ∧ osal.heap.Requeued heap' msgs := by
  obtain ⟨heap', hfind, hq', hreq⟩ := msgFindDequeueIn_spec hq event e
  refine ⟨heap', ?_, hq', hreq⟩
  simp only [msgFindDequeue, h.findIdx?_eq hget, hget, hfind, Option.bind_eq_bind,
    Option.bind_some]
  rfl

/-- **`OsalPort_waitEvent`** takes the semaphore of the task and reads its flags. -/
theorem waitEvent_spec (h : osal.Registered) {i : ℕ} {task : TaskEntry} {sem sem' : Semaphore}
    (hget : osal.taskTbl[i]? = some task) (hsem : task.taskSem = some sem)
    (hpend : sem.pend = some sem') :
    osal.waitEvent (taskIdOf i) =
      some (osal.setTask i { task with taskSem := some sem' }, task.eventFlag) := by
  simp only [waitEvent, h.findIdx?_eq hget, hget, hsem, hpend, Option.bind_eq_bind,
    Option.bind_some]
  rfl

/-! ## A task with a binary semaphore -/

/-- The task at place `i` has these messages in its queue, and its semaphore, which is binary, can
be taken or not. -/
structure Serves (osal : OsalPort β) (i : ℕ) (msgs : List Addr) (ready : Bool) : Prop where
  registered : osal.Registered
  entry : ∃ task, osal.taskTbl[i]? = some task ∧ QueueAt osal.heap task.qHandle msgs ∧
    task.taskSem = some ⟨true, ready.toNat⟩

/-- The task after a change of its entry. -/
theorem Registered.serves_setTask (h : osal.Registered) {i : ℕ} {task task' : TaskEntry}
    (hget : osal.taskTbl[i]? = some task) (hid : task'.taskId = task.taskId) {heap' : Heap β}
    {msgs : List Addr} {ready : Bool} (hq : QueueAt heap' task'.qHandle msgs)
    (hsem : task'.taskSem = some ⟨true, ready.toNat⟩) :
    ({ osal with heap := heap' }.setTask i task').Serves i msgs ready := by
  have hreg : ({ osal with heap := heap' } : OsalPort β).Registered := ⟨h.cnt, h.room, h.ids⟩
  refine ⟨hreg.setTask (hid.trans (h.ids i task hget)), task', ?_, hq, hsem⟩
  simp [(List.getElem?_eq_some_iff.mp hget).1]

namespace Serves

variable {i : ℕ} {msgs : List Addr} {ready : Bool}

/-- A change of the heap outside the queue. -/
theorem congr_heap (h : osal.Serves i msgs ready) {heap' : Heap β}
    (hsame : ∀ pMsg ∈ msgs, heap' pMsg = osal.heap pMsg) :
    ({ osal with heap := heap' } : OsalPort β).Serves i msgs ready := by
  obtain ⟨hreg, task, hget, hq, hsem⟩ := h
  refine ⟨⟨hreg.cnt, hreg.room, hreg.ids⟩, task, hget, hq.congr fun pMsg hmem => ?_, hsem⟩
  exact congrArg (Option.map fun block => block.hdr.next) (hsame pMsg hmem)

/-- `OsalPort_msgSend` to the task. -/
theorem send (h : osal.Serves i msgs ready) {pMsg : Addr}
    (halloc : ∃ q, osal.heap.next pMsg = some q) (hnew : pMsg ∉ msgs) :
    ∃ osal', osal.msgSend (taskIdOf i) (some pMsg) = some (osal', osalPortSuccess) ∧
      osal'.Serves i (msgs ++ [pMsg]) true ∧ osal.heap.Requeued osal'.heap (pMsg :: msgs) := by
  obtain ⟨hreg, task, hget, hq, hsem⟩ := h
  obtain ⟨heap', hsend, hq', hreq⟩ := msgSend_spec hreg hget hq halloc hnew
  refine ⟨_, hsend, ?_, hreq⟩
  refine hreg.serves_setTask hget ?_ hq' ?_
  · rfl
  · simp [TaskEntry.raise, hsem, Semaphore.post]

/-- The first part of `OsalPort_msgReceive` for the task. -/
theorem take (h : osal.Serves i msgs ready) :
    ∃ osal', osal.msgTake i = some (osal', msgs.head?) ∧ osal'.Serves i msgs.tail ready ∧
      osal.heap.Requeued osal'.heap msgs := by
  obtain ⟨hreg, task, hget, hq, hsem⟩ := h
  obtain ⟨heap', htake, hq', hreq⟩ := msgTake_spec hget hq
  refine ⟨_, htake, ?_, hreq⟩
  refine hreg.serves_setTask hget ?_ hq' hsem
  rfl

/-- The second part of `OsalPort_msgReceive` for the task. -/
theorem look (h : osal.Serves i msgs ready) : osal.msgQEmpty i = some (decide (msgs = [])) := by
  obtain ⟨hreg, task, hget, hq, hsem⟩ := h
  exact msgQEmpty_spec hget hq

/-- The third part of `OsalPort_msgReceive` for the task. -/
theorem signal (h : osal.Serves i msgs ready) (self : ℕ) (isEmpty : Bool) :
    ∃ osal', osal.msgSignal self i isEmpty = some osal' ∧
      osal'.Serves i msgs (ready || !isEmpty) ∧ osal'.heap = osal.heap := by
  obtain ⟨hreg, task, hget, hq, hsem⟩ := h
  refine ⟨_, msgSignal_spec hreg hget self isEmpty, ?_, rfl⟩
  refine hreg.serves_setTask hget ?_ ?_ ?_
  · cases isEmpty <;> rfl
  · cases isEmpty <;> exact hq
  · cases isEmpty with
    | true => simpa [TaskEntry.clear] using hsem
    | false => simp [TaskEntry.raise, hsem, Semaphore.post]

/-- `OsalPort_msgFind` for the task. -/
theorem find (h : osal.Serves i msgs ready) (event : β → UInt8) (e : UInt8) :
    osal.msgFind event (taskIdOf i) e = some (msgs.find? (eventTest osal.heap event e)) := by
  obtain ⟨hreg, task, hget, hq, hsem⟩ := h
  exact msgFind_spec hreg hget hq event e

/-- `OsalPort_msgFindDequeue` for the task: it returns what `OsalPort_msgFind` does, and leaves the
other messages in their order. -/
theorem findDequeue (h : osal.Serves i msgs ready) (event : β → UInt8) (e : UInt8) :
    ∃ osal' pMsg, osal.msgFind event (taskIdOf i) e = some pMsg ∧
      osal.msgFindDequeue event (taskIdOf i) e = some (osal', pMsg) ∧
      osal'.Serves i (msgs.eraseP (eventTest osal.heap event e)) ready ∧
      osal.heap.Requeued osal'.heap msgs := by
  have hfind := h.find event e
  obtain ⟨hreg, task, hget, hq, hsem⟩ := h
  obtain ⟨heap', hdeq, hq', hreq⟩ := msgFindDequeue_spec hreg hget hq event e
  refine ⟨_, _, hfind, hdeq, ?_, hreq⟩
  refine hreg.serves_setTask hget ?_ hq' hsem
  rfl

/-- `Semaphore_post` for the task. -/
theorem post (h : osal.Serves i msgs ready) :
    ∃ osal', osal.semPost i = some osal' ∧ osal'.Serves i msgs true ∧
      osal'.heap = osal.heap := by
  obtain ⟨hreg, task, hget, hq, hsem⟩ := h
  refine ⟨osal.setTask i { task with taskSem := task.taskSem.map Semaphore.post }, ?_, ?_, rfl⟩
  · simp only [semPost, hget]
    rfl
  · refine hreg.serves_setTask hget ?_ hq ?_
    · rfl
    · simp [hsem, Semaphore.post]

/-- `Semaphore_pend` for the task, if the semaphore can be taken. -/
theorem pend (h : osal.Serves i msgs true) :
    ∃ osal', osal.semPend i = some osal' ∧ osal'.Serves i msgs false ∧
      osal'.heap = osal.heap := by
  obtain ⟨hreg, task, hget, hq, hsem⟩ := h
  refine ⟨osal.setTask i { task with taskSem := some ⟨true, 0⟩ }, ?_, ?_, rfl⟩
  · simp [semPend, hget, hsem, Semaphore.pend, OsalPort.setTask]
  · refine hreg.serves_setTask hget ?_ hq ?_
    · rfl
    · rfl

/-- `Semaphore_pend` for the task, if it waits. -/
theorem pend_eq_none (h : osal.Serves i msgs false) : osal.semPend i = none := by
  obtain ⟨hreg, task, hget, hq, hsem⟩ := h
  simp [semPend, hget, hsem, Semaphore.pend]

end Serves

end OsalPort

end SensorCollector
