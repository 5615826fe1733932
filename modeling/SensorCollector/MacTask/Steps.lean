import SensorCollector.Lib.FlagBits
import SensorCollector.Lib.Ownership
import SensorCollector.MacTask.Defs
import SensorCollector.Osal.Tasks

set_option relaxedAutoImplicit false
set_option autoImplicit false

/-!
# The steps of the task of the MAC

What each part of the loop does to the queue, the flags and the semaphore of the task, and what
comes in between.

A flag that the task has not read keeps the semaphore up, so the task does not wait. A message in
the queue is announced by the event of the messages, unless it has been sent at the end of the loop
over the messages, after the queue has been found empty and before the event is cleared.

## Main definitions

* `SensorCollector.HasFlag` — an event flag is set.
* `SensorCollector.MacAt` — the invariant of the task.
* `SensorCollector.MacPc.Announced` — the messages in the queue are announced.
* `SensorCollector.MacMoved` — what a step does.

## Main results

* `SensorCollector.MacAt.step` — one step.
-/

namespace SensorCollector

open LinkedList Ownership OsalPort

/-! ## Flags -/

/-- Event flag `i` is set. -/
def HasFlag (flags : UInt32) (i : ℕ) : Prop := flags.toBitVec.getLsbD i = true

instance (flags : UInt32) (i : ℕ) : Decidable (HasFlag flags i) :=
  inferInstanceAs (Decidable (_ = true))

section Flags

variable {a b : UInt32} {i : ℕ}

@[simp] theorem hasFlag_or : HasFlag (a ||| b) i ↔ HasFlag a i ∨ HasFlag b i := by
  simp [HasFlag]

@[simp] theorem hasFlag_and_not : HasFlag (a &&& ~~~b) i ↔ HasFlag a i ∧ ¬ HasFlag b i := by
  by_cases hi : i < 32
  · simp [HasFlag, hi]
  · simp [HasFlag, BitVec.getLsbD_of_ge _ _ (Nat.le_of_not_lt hi)]

/-- No flag is set in zero. -/
@[simp] theorem not_hasFlag_zero : ¬ HasFlag 0 i := by
  simp [HasFlag]

/-- Without flags there is only zero. -/
theorem eq_zero_of_no_flag (h : ∀ i, ¬ HasFlag a i) : a = 0 := by
  apply UInt32.eq_of_toBitVec_eq
  apply BitVec.eq_of_getLsbD_eq
  intro i _
  simpa [HasFlag] using h i

/-- The event of the messages is flag 15. -/
@[simp] theorem hasFlag_sys : HasFlag osalPortSysEventMsg i ↔ i = 15 := by
  have hbit : osalPortSysEventMsg.toBitVec = FlagBits.bit 32 15 := by decide
  rw [HasFlag, hbit, FlagBits.getLsbD_bit (by decide), decide_eq_true_iff]

/-- The test for the event of the messages. -/
theorem and_sys_ne_zero : a &&& osalPortSysEventMsg ≠ 0 ↔ HasFlag a 15 := by
  have hbit : osalPortSysEventMsg.toBitVec = FlagBits.bit 32 15 := by decide
  rw [HasFlag, ← FlagBits.isSet_iff_getLsbD (by decide), FlagBits.IsSet, ← hbit]
  rw [← UInt32.toBitVec_and, ne_eq, ne_eq, ← UInt32.toBitVec_inj]
  rfl

end Flags

/-! ## The invariant -/

/-- A flag that is set, and that the task has not read, keeps the semaphore up. -/
def MacPc.Awake (pc : MacPc) (macEvents flags : UInt32) (count : ℕ) : Prop :=
  match pc with
  | .reading => True
  | .clearing => ∀ i, HasFlag flags i → HasFlag macEvents i ∨ 0 < count
  | _ => ∀ i, HasFlag flags i → 0 < count

/-- The messages in the queue are announced, if the task does not come to them anyway. -/
def MacPc.Announced (pc : MacPc) (macEvents flags : UInt32) (msgs : List Addr) : Prop :=
  match pc with
  | .clearing => msgs ≠ [] → HasFlag flags 15 ∨ HasFlag macEvents 15
  | .receiving | .testing _ | .signalling (some _) _ | .handling (some _) => True
  | .signalling none isEmpty => isEmpty = true → msgs = []
  | _ => msgs ≠ [] → HasFlag flags 15

/-- **The invariant of the task**: its entry in the table, its semaphore and its queue. A block is a
message in the queue, or the one in hand, or any other block. -/
structure MacAt (s : MacTask) (task : TaskEntry) (count : ℕ) (msgs : List Addr) : Prop where
  registered : s.osal.Registered
  task_at : s.osal.taskTbl[macTaskIdx]? = some task
  sem : task.taskSem = some ⟨false, count⟩
  queue : QueueAt s.osal.heap task.qHandle msgs
  owns : Owns s.osal.heap (s.blocks ++ (s.pc.hand.toList ++ msgs))
  awake : s.pc.Awake s.macEvents task.eventFlag count
  idle : s.pc = .waiting ∨ s.pc = .reading → s.macEvents = 0

/-- The message that a step sends. -/
def MacStep.sent : MacStep → List Addr
  | .send pMsg => [pMsg]
  | _ => []

/-- The message that is executed. -/
def MacOut.executed : MacOut → List Addr
  | .execute pMsg => [pMsg]
  | _ => []

/-- The word of events that is dispatched. -/
def MacOut.dispatched : MacOut → UInt32
  | .events macEvents => macEvents
  | _ => 0

/-- A message is sent after the queue has been found empty, before the event is cleared, and no
message has been taken out. -/
def MacStep.Unannounced (e : MacStep) (pc : MacPc) : Prop :=
  e.sent ≠ [] ∧ pc = .signalling none true

instance (e : MacStep) (pc : MacPc) : Decidable (e.Unannounced pc) :=
  inferInstanceAs (Decidable (_ ∧ _))

/-- The step is the start of a round. -/
def MacStep.isPend : MacStep → Bool
  | .pend => true
  | _ => false

/-- The step posts the semaphore of the task. -/
def MacStep.posts (e : MacStep) (pc : MacPc) : Bool :=
  match e, pc with
  | .setEvent _, _ => true
  | .send _, _ => true
  | .signal, .signalling _ isEmpty => !isEmpty
  | _, _ => false

/-- **What a step does**: to the messages, to the events other than that of the messages, to the
semaphore, and whether the messages are still announced. -/
structure MacMoved (s : MacTask) (task : TaskEntry) (count : ℕ) (msgs : List Addr) (e : MacStep)
    (o : MacOut) (s' : MacTask) (task' : TaskEntry) (count' : ℕ) (msgs' : List Addr) : Prop where
  fifo : s.pc.hand.toList ++ msgs ++ e.sent = o.executed ++ (s'.pc.hand.toList ++ msgs')
  kept : ∀ i, i ≠ 15 → HasFlag task.eventFlag i ∨ HasFlag s.macEvents i →
    HasFlag task'.eventFlag i ∨ HasFlag s'.macEvents i ∨ HasFlag o.dispatched i
  set : ∀ eventFlag, e = .setEvent eventFlag → ∀ i, HasFlag eventFlag i →
    HasFlag task'.eventFlag i
  posted : e.isPend.toNat + count' = count + (e.posts s.pc).toNat
  announced : ¬ e.Unannounced s.pc → s.pc.Announced s.macEvents task.eventFlag msgs →
    s'.pc.Announced s'.macEvents task'.eventFlag msgs'

/-- A step that changes no flags does something to the messages and to the semaphore only. -/
theorem MacMoved.of_flags {s s' : MacTask} {task task' : TaskEntry} {count count' : ℕ}
    {msgs msgs' : List Addr} {e : MacStep} {o : MacOut} (hflags : task'.eventFlag = task.eventFlag)
    (hread : s'.macEvents = s.macEvents) (hset : ∀ eventFlag, e ≠ .setEvent eventFlag)
    (hposted : e.isPend.toNat + count' = count + (e.posts s.pc).toNat)
    (hfifo : s.pc.hand.toList ++ msgs ++ e.sent = o.executed ++ (s'.pc.hand.toList ++ msgs'))
    (hann : s.pc.Announced s.macEvents task.eventFlag msgs →
      s'.pc.Announced s.macEvents task.eventFlag msgs') :
    MacMoved s task count msgs e o s' task' count' msgs' where
  fifo := hfifo
  kept i _ hflag := by
    rw [hflags, hread]
    exact hflag.imp_right Or.inl
  set eventFlag heq := absurd heq (hset eventFlag)
  posted := hposted
  announced _ h := by
    rw [hflags, hread]
    exact hann h

namespace MacAt

variable {s s' : MacTask} {task : TaskEntry} {count : ℕ} {msgs : List Addr} {e : MacStep}
  {o : MacOut}

/-- What holds after a step. -/
def After (s : MacTask) (task : TaskEntry) (count : ℕ) (msgs : List Addr) (e : MacStep) (o : MacOut)
    (s' : MacTask) : Prop :=
  ∃ task' count' msgs', MacAt s' task' count' msgs' ∧
    MacMoved s task count msgs e o s' task' count' msgs'

/-- The port with another heap and another entry for the task. -/
theorem registered_setTask (h : MacAt s task count msgs) (task' : TaskEntry)
    (hid : task'.taskId = task.taskId) (heap' : Heap MacBody) :
    (setTask { s.osal with heap := heap' } macTaskIdx task').Registered ∧
      (setTask { s.osal with heap := heap' } macTaskIdx task').taskTbl[macTaskIdx]? =
        some task' := by
  have hreg : ({ s.osal with heap := heap' } : OsalPort MacBody).Registered :=
    ⟨h.registered.cnt, h.registered.room, h.registered.ids⟩
  refine ⟨hreg.setTask (hid.trans (h.registered.ids _ _ h.task_at)), ?_⟩
  simp [(List.getElem?_eq_some_iff.mp h.task_at).1]

/-- The messages in the queue are allocated, and are no other blocks. -/
theorem not_mem_of_block (h : MacAt s task count msgs) {buf : Addr} (hbuf : buf ∈ s.blocks) :
    buf ∉ msgs := by
  have hdisj := (List.nodup_append.mp h.owns.nodup).2.2
  intro hmem
  exact hdisj buf hbuf buf (by simp [hmem]) rfl

/-- **The start of a round**: the semaphore is taken. -/
theorem step_pend (h : MacAt s task count msgs) (hpc : s.pc = .waiting) {osal : OsalPort MacBody}
    (hpend : s.osal.semPend macTaskIdx = some osal) :
    After s task count msgs .pend .done { s with osal := osal, pc := .reading } := by
  have hcount : 0 < count := by
    by_contra hzero
    simp [semPend, h.task_at, h.sem, Semaphore.pend, hzero] at hpend
  obtain rfl : osal =
      s.osal.setTask macTaskIdx { task with taskSem := some ⟨false, count - 1⟩ } := by
    simpa [semPend, h.task_at, h.sem, Semaphore.pend, hcount, setTask] using hpend.symm
  obtain ⟨hreg, hget⟩ := h.registered_setTask { task with
    taskSem := some ⟨false, count - 1⟩ } rfl s.osal.heap
  refine ⟨_, count - 1, msgs, ⟨hreg, hget, rfl, h.queue, ?_, trivial, ?_⟩, ?_⟩
  · simpa [MacPc.hand, hpc] using h.owns
  · exact fun _ => h.idle (Or.inl hpc)
  · refine .of_flags rfl rfl (by simp) ?_ ?_ fun hann => ?_
    · show 1 + (count - 1) = count
      omega
    · simp [MacPc.hand, hpc, MacStep.sent, MacOut.executed]
    · simpa [hpc, MacPc.Announced] using hann

/-- **The flags are read.** -/
theorem step_read (h : MacAt s task count msgs) (hpc : s.pc = .reading) :
    After s task count msgs .read .done
      { s with macEvents := task.eventFlag, pc := .clearing } := by
  refine ⟨task, count, msgs, ⟨h.registered, h.task_at, h.sem, h.queue, ?_, ?_, ?_⟩, ?_⟩
  · simpa [MacPc.hand, hpc] using h.owns
  · exact fun i hflag => Or.inl hflag
  · rintro (hwait | hread)
    · cases hwait
    · cases hread
  · refine ⟨?_, ?_, ?_, Nat.zero_add count, ?_⟩
    · simp [MacPc.hand, hpc, MacStep.sent, MacOut.executed]
    · rintro i - (hflag | hread)
      · exact Or.inl hflag
      · rw [h.idle (Or.inr hpc)] at hread
        exact absurd hread not_hasFlag_zero
    · exact fun _ heq => by cases heq
    · intro _ hann hmsgs
      rw [hpc] at hann
      exact Or.inl (hann hmsgs)

/-- **The flags that have been read are cleared.** The loop over the messages follows if their event
is among them. -/
theorem step_clear (h : MacAt s task count msgs) (hpc : s.pc = .clearing) :
    After s task count msgs .clear .done { s with
      osal := s.osal.setTask macTaskIdx (task.clear s.macEvents)
      pc := if s.macEvents &&& osalPortSysEventMsg ≠ 0 then .receiving else .dispatching } := by
  obtain ⟨hreg, hget⟩ := h.registered_setTask (task.clear s.macEvents) rfl s.osal.heap
  have hawake : ∀ i, HasFlag (task.clear s.macEvents).eventFlag i → 0 < count := by
    have hbefore := h.awake
    rw [hpc] at hbefore
    intro i hflag
    obtain ⟨hset, hunread⟩ := hasFlag_and_not.mp hflag
    exact (hbefore i hset).resolve_left hunread
  refine ⟨task.clear s.macEvents, count, msgs, ⟨hreg, hget, h.sem, h.queue, ?_, ?_, ?_⟩, ?_⟩
  · split_ifs <;> simpa [MacPc.hand, hpc] using h.owns
  · split_ifs <;> exact hawake
  · split_ifs <;> simp
  · refine ⟨?_, ?_, ?_, Nat.zero_add count, ?_⟩
    · split_ifs <;> simp [MacPc.hand, hpc, MacStep.sent, MacOut.executed]
    · intro i _ hflag
      by_cases hread : HasFlag s.macEvents i
      · exact Or.inr (Or.inl hread)
      · exact Or.inl (hasFlag_and_not.mpr ⟨hflag.resolve_right hread, hread⟩)
    · exact fun _ heq => by cases heq
    · intro _ hann
      rw [hpc] at hann
      split_ifs with htest
      · trivial
      · intro hmsgs
        have hread : ¬ HasFlag s.macEvents 15 := fun hread => htest (and_sys_ne_zero.mpr hread)
        exact hasFlag_and_not.mpr ⟨(hann hmsgs).resolve_right hread, hread⟩

/-- **A message is taken out of the queue.** -/
theorem step_take (h : MacAt s task count msgs) (hpc : s.pc = .receiving) :
    ∃ r, s.osal.msgTake macTaskIdx = some r ∧
      After s task count msgs .take .done { s with osal := r.1, pc := .testing r.2 } := by
  obtain ⟨heap', htake, hq', hreq⟩ := msgTake_spec h.task_at h.queue
  obtain ⟨hreg, hget⟩ := h.registered_setTask { task with
    qHandle := msgs.tail.head? } rfl heap'
  have hmsgs : msgs.head?.toList ++ msgs.tail = msgs := by
    cases msgs <;> rfl
  refine ⟨_, htake, _, count, msgs.tail, ⟨hreg, hget, h.sem, hq', ?_, ?_, ?_⟩, ?_⟩
  · have howns := h.owns.congr fun a => Heap.isSome_of_content hreq.content a
    simpa [MacPc.hand, hpc, hmsgs] using howns
  · have hawake := h.awake
    rw [hpc] at hawake
    exact hawake
  · simp
  · refine .of_flags rfl rfl (by simp) (Nat.zero_add count) ?_ fun _ => trivial
    simp [MacPc.hand, hpc, MacStep.sent, MacOut.executed, hmsgs]

/-- **The test whether messages are left.** -/
theorem step_look (h : MacAt s task count msgs) {pMsg : Option Addr}
    (hpc : s.pc = .testing pMsg) :
    ∃ isEmpty, s.osal.msgQEmpty macTaskIdx = some isEmpty ∧
      After s task count msgs .look .done { s with pc := .signalling pMsg isEmpty } := by
  refine ⟨_, msgQEmpty_spec h.task_at h.queue, task, count, msgs,
    ⟨h.registered, h.task_at, h.sem, h.queue, ?_, ?_, ?_⟩, ?_⟩
  · simpa [MacPc.hand, hpc] using h.owns
  · have hawake := h.awake
    rw [hpc] at hawake
    exact hawake
  · simp
  · refine .of_flags rfl rfl (by simp) (Nat.zero_add count) ?_ fun _ => ?_
    · simp [MacPc.hand, hpc, MacStep.sent, MacOut.executed]
    · cases pMsg with
      | none => exact of_decide_eq_true
      | some p => trivial

/-- **The event of the messages is cleared or set.** -/
theorem step_signal (h : MacAt s task count msgs) {pMsg : Option Addr} {isEmpty : Bool}
    (hpc : s.pc = .signalling pMsg isEmpty) :
    ∃ osal, s.osal.msgSignal macTaskHndl macTaskIdx isEmpty = some osal ∧
      After s task count msgs .signal .done { s with osal := osal, pc := .handling pMsg } := by
  refine ⟨_, msgSignal_spec h.registered h.task_at _ isEmpty, ?_⟩
  cases isEmpty with
  | true =>
    obtain ⟨hreg, hget⟩ := h.registered_setTask (task.clear osalPortSysEventMsg) rfl
      s.osal.heap
    refine ⟨_, count, msgs, ⟨hreg, hget, h.sem, h.queue, ?_, ?_, ?_⟩, ?_⟩
    · simpa [MacPc.hand, hpc] using h.owns
    · have hawake := h.awake
      rw [hpc] at hawake
      exact fun i hflag => hawake i (hasFlag_and_not.mp hflag).1
    · simp
    · refine ⟨?_, ?_, ?_, by simp [MacStep.isPend, MacStep.posts, hpc], ?_⟩
      · simp [MacPc.hand, hpc, MacStep.sent, MacOut.executed]
      · rintro i hi (hflag | hread)
        · exact Or.inl (hasFlag_and_not.mpr ⟨hflag, by simpa using hi⟩)
        · exact Or.inr (Or.inl hread)
      · exact fun _ heq => by cases heq
      · intro _ hann
        rw [hpc] at hann
        cases pMsg with
        | none => exact fun hmsgs => absurd (hann rfl) hmsgs
        | some p => trivial
  | false =>
    obtain ⟨hreg, hget⟩ := h.registered_setTask (task.raise osalPortSysEventMsg) rfl
      s.osal.heap
    refine ⟨_, count + 1, msgs, ⟨hreg, hget, ?_, h.queue, ?_, ?_, ?_⟩, ?_⟩
    · simp [TaskEntry.raise, h.sem, Semaphore.post]
    · simpa [MacPc.hand, hpc] using h.owns
    · exact fun _ _ => Nat.succ_pos count
    · simp
    · refine ⟨?_, ?_, ?_, by simp [MacStep.isPend, MacStep.posts, hpc], ?_⟩
      · simp [MacPc.hand, hpc, MacStep.sent, MacOut.executed]
      · rintro i - (hflag | hread)
        · exact Or.inl (hasFlag_or.mpr (Or.inl hflag))
        · exact Or.inr (Or.inl hread)
      · exact fun _ heq => by cases heq
      · intro _ _
        cases pMsg with
        | none => exact fun _ => hasFlag_or.mpr (Or.inr (hasFlag_sys.mpr rfl))
        | some p => trivial

/-- **The end of the loop over the messages.** -/
theorem step_handle_none (h : MacAt s task count msgs) (hpc : s.pc = .handling none) :
    After s task count msgs .handle .done { s with pc := .dispatching } := by
  have hawake := h.awake
  rw [hpc] at hawake
  refine ⟨task, count, msgs, ⟨h.registered, h.task_at, h.sem, h.queue, ?_, hawake, ?_⟩, ?_⟩
  · simpa [MacPc.hand, hpc] using h.owns
  · simp
  · refine .of_flags rfl rfl (by simp) (Nat.zero_add count) ?_ fun hann => ?_
    · simp [MacPc.hand, hpc, MacStep.sent, MacOut.executed]
    · rw [hpc] at hann
      exact hann

/-- **A message is executed**, and is no message to the MAC any more. -/
theorem step_handle_some (h : MacAt s task count msgs) {pMsg : Addr}
    (hpc : s.pc = .handling (some pMsg)) :
    After s task count msgs .handle (.execute pMsg)
      { s with pc := .receiving, blocks := pMsg :: s.blocks } := by
  have hawake := h.awake
  rw [hpc] at hawake
  refine ⟨task, count, msgs, ⟨h.registered, h.task_at, h.sem, h.queue, ?_, hawake, ?_⟩, ?_⟩
  · have howns := h.owns
    rw [hpc] at howns
    exact howns.perm List.perm_middle
  · simp
  · refine .of_flags rfl rfl (by simp) (Nat.zero_add count) ?_ fun _ => trivial
    simp [MacPc.hand, hpc, MacStep.sent, MacOut.executed]

/-- **The other events are dispatched**, and the round ends. -/
theorem step_dispatch (h : MacAt s task count msgs) (hpc : s.pc = .dispatching) :
    After s task count msgs .dispatch (.events s.macEvents)
      { s with macEvents := 0, pc := .waiting } := by
  have hawake := h.awake
  rw [hpc] at hawake
  refine ⟨task, count, msgs, ⟨h.registered, h.task_at, h.sem, h.queue, ?_, hawake, ?_⟩, ?_⟩
  · simpa [MacPc.hand, hpc] using h.owns
  · exact fun _ => rfl
  · refine ⟨?_, ?_, ?_, Nat.zero_add count, ?_⟩
    · simp [MacPc.hand, hpc, MacStep.sent, MacOut.executed]
    · rintro i - (hflag | hread)
      · exact Or.inl hflag
      · exact Or.inr (Or.inr hread)
    · exact fun _ heq => by cases heq
    · intro _ hann
      rw [hpc] at hann
      exact hann

/-! ## What comes in between -/

/-- Where the semaphore can be taken, no flag keeps waiting. -/
theorem awake_of_pos {pc : MacPc} {macEvents flags : UInt32} (hcount : 0 < count) :
    pc.Awake macEvents flags count := by
  cases pc <;> first | trivial | exact fun _ _ => hcount | exact fun _ _ => Or.inr hcount

/-- Further flags announce no less. -/
theorem announced_mono {pc : MacPc} {macEvents flags flags' : UInt32}
    (hflags : HasFlag flags 15 → HasFlag flags' 15) (h : pc.Announced macEvents flags msgs) :
    pc.Announced macEvents flags' msgs := by
  cases pc with
  | clearing => exact fun hmsgs => (h hmsgs).imp_left hflags
  | receiving => trivial
  | testing p => trivial
  | signalling p isEmpty => cases p <;> exact h
  | handling p =>
    cases p with
    | none => exact fun hmsgs => hflags (h hmsgs)
    | some p => trivial
  | waiting => exact fun hmsgs => hflags (h hmsgs)
  | reading => exact fun hmsgs => hflags (h hmsgs)
  | dispatching => exact fun hmsgs => hflags (h hmsgs)

/-- **An event is set.** -/
theorem step_setEvent (h : MacAt s task count msgs) (eventFlag : UInt32) :
    ∃ r, s.osal.setEvent (taskIdOf macTaskIdx) eventFlag = some r ∧
      After s task count msgs (.setEvent eventFlag) .done { s with osal := r.1 } := by
  obtain ⟨hreg, hget⟩ := h.registered_setTask (task.raise eventFlag) rfl s.osal.heap
  refine ⟨_, setEvent_spec h.registered h.task_at eventFlag, _, count + 1, msgs,
    ⟨hreg, hget, ?_, h.queue, h.owns, awake_of_pos (Nat.succ_pos count), h.idle⟩, ?_⟩
  · simp [TaskEntry.raise, h.sem, Semaphore.post]
  · refine ⟨?_, ?_, ?_, Nat.zero_add _, ?_⟩
    · simp [MacStep.sent, MacOut.executed]
    · rintro i - (hflag | hread)
      · exact Or.inl (hasFlag_or.mpr (Or.inl hflag))
      · exact Or.inr (Or.inl hread)
    · rintro _ ⟨⟩ i hflag
      exact hasFlag_or.mpr (Or.inr hflag)
    · exact fun _ => announced_mono fun hflag => hasFlag_or.mpr (Or.inl hflag)

/-- **A message is sent.** It is announced, unless the event is to be cleared next. -/
theorem step_send (h : MacAt s task count msgs) {pMsg : Addr} (hmem : pMsg ∈ s.blocks) :
    ∃ r, s.osal.msgSend (taskIdOf macTaskIdx) (some pMsg) = some r ∧
      After s task count msgs (.send pMsg) .done
        { s with osal := r.1, blocks := s.blocks.erase pMsg } := by
  have halloc : ∃ q, s.osal.heap.next pMsg = some q :=
    Heap.next_isSome_iff.mpr (h.owns.exists_of_mem (List.mem_append_left _ hmem))
  obtain ⟨heap', hsend, hq', hreq⟩ := msgSend_spec h.registered h.task_at h.queue halloc
    (h.not_mem_of_block hmem)
  obtain ⟨hreg, hget⟩ := h.registered_setTask (TaskEntry.raise { task with
    qHandle := (msgs ++ [pMsg]).head? } osalPortSysEventMsg) rfl heap'
  refine ⟨_, hsend, _, count + 1, msgs ++ [pMsg],
    ⟨hreg, hget, ?_, hq', ?_, awake_of_pos (Nat.succ_pos count), h.idle⟩, ?_⟩
  · simp [TaskEntry.raise, h.sem, Semaphore.post]
  · refine (h.owns.congr fun a => Heap.isSome_of_content hreq.content a).perm ?_
    have hlast : s.blocks.erase pMsg ++ (s.pc.hand.toList ++ (msgs ++ [pMsg])) =
        (s.blocks.erase pMsg ++ (s.pc.hand.toList ++ msgs)) ++ [pMsg] := by simp
    refine ((List.perm_cons_erase hmem).append_right _).trans ?_
    show List.Perm _ (s.blocks.erase pMsg ++ (s.pc.hand.toList ++ (msgs ++ [pMsg])))
    rw [hlast, List.cons_append]
    exact (List.perm_append_singleton _ _).symm
  · refine ⟨?_, ?_, ?_, Nat.zero_add _, ?_⟩
    · simp [MacStep.sent, MacOut.executed]
    · rintro i - (hflag | hread)
      · exact Or.inl (hasFlag_or.mpr (Or.inl hflag))
      · exact Or.inr (Or.inl hread)
    · exact fun _ heq => by cases heq
    · intro hnot hann
      have hsys : HasFlag (task.eventFlag ||| osalPortSysEventMsg) 15 :=
        hasFlag_or.mpr (Or.inr (hasFlag_sys.mpr rfl))
      show s.pc.Announced s.macEvents (task.eventFlag ||| osalPortSysEventMsg) (msgs ++ [pMsg])
      cases hpc : s.pc with
      | signalling p isEmpty =>
        cases p with
        | none =>
          rintro rfl
          exact absurd ⟨by simp [MacStep.sent], hpc⟩ hnot
        | some p => trivial
      | clearing => exact fun _ => Or.inl hsys
      | receiving => trivial
      | testing p => trivial
      | waiting => exact fun _ => hsys
      | reading => exact fun _ => hsys
      | handling p =>
        cases p with
        | none => exact fun _ => hsys
        | some p => trivial
      | dispatching => exact fun _ => hsys

/-- **Blocks that are not in the queue are changed.** -/
theorem step_heap (h : MacAt s task count msgs) {heap' : Heap MacBody} {blocks' : List Addr}
    (hsame : ∀ a ∈ msgs, heap' a = s.osal.heap a)
    (howns : Owns heap' (blocks' ++ (s.pc.hand.toList ++ msgs))) (hsent : e.sent = [])
    (hset : ∀ eventFlag, e ≠ .setEvent eventFlag)
    (hposted : e.isPend.toNat + count = count + (e.posts s.pc).toNat) :
    After s task count msgs e .done
      { s with osal := { s.osal with heap := heap' }, blocks := blocks' } := by
  refine ⟨task, count, msgs, ⟨⟨h.registered.cnt, h.registered.room, h.registered.ids⟩, h.task_at,
    h.sem, ?_, howns, h.awake, h.idle⟩, ?_⟩
  · exact h.queue.congr fun a ha =>
      congrArg (Option.map fun block : MsgBlock MacBody => block.hdr.next) (hsame a ha)
  · refine .of_flags rfl rfl hset hposted ?_ fun hann => hann
    simp [hsent, MacOut.executed]

/-- **One step** keeps the invariant, and does what it should.

**Proof sketch.** One case for each part of the loop, and for each thing that comes in between. -/
theorem step (h : MacAt s task count msgs) (hs : macTaskMachine.step s e = some (s', o)) :
    After s task count msgs e o s' := by
  cases e with
  | pend =>
    simp only [macTaskMachine] at hs
    split at hs
    · rename_i hpc
      obtain ⟨osal, hpend, heq⟩ := Option.map_eq_some_iff.mp hs
      obtain ⟨rfl, rfl⟩ := Prod.mk.inj heq
      exact h.step_pend hpc hpend
    · cases hs
  | read =>
    simp only [macTaskMachine] at hs
    split at hs
    · rename_i hpc
      rw [h.task_at] at hs
      cases hs
      exact h.step_read hpc
    · cases hs
  | clear =>
    simp only [macTaskMachine] at hs
    split at hs
    · rename_i hpc
      rw [clearEvent_spec h.registered h.task_at] at hs
      cases hs
      exact h.step_clear hpc
    · cases hs
  | take =>
    simp only [macTaskMachine] at hs
    split at hs
    · rename_i hpc
      obtain ⟨r, htake, hafter⟩ := h.step_take hpc
      rw [htake] at hs
      cases hs
      exact hafter
    · cases hs
  | look =>
    simp only [macTaskMachine] at hs
    split at hs
    · rename_i pMsg hpc
      obtain ⟨isEmpty, hlook, hafter⟩ := h.step_look hpc
      rw [hlook] at hs
      cases hs
      exact hafter
    · cases hs
  | signal =>
    simp only [macTaskMachine] at hs
    split at hs
    · rename_i pMsg isEmpty hpc
      obtain ⟨osal, hsignal, hafter⟩ := h.step_signal hpc
      rw [hsignal] at hs
      cases hs
      exact hafter
    · cases hs
  | handle =>
    simp only [macTaskMachine] at hs
    split at hs
    · rename_i hpc
      cases hs
      exact h.step_handle_none hpc
    · rename_i pMsg hpc
      cases hs
      exact h.step_handle_some hpc
    · cases hs
  | dispatch =>
    simp only [macTaskMachine] at hs
    split at hs
    · rename_i hpc
      cases hs
      exact h.step_dispatch hpc
    · cases hs
  | setEvent eventFlag =>
    obtain ⟨r, hset, hafter⟩ := h.step_setEvent eventFlag
    simp only [macTaskMachine, hset, Option.map_some] at hs
    cases hs
    exact hafter
  | send pMsg =>
    simp only [macTaskMachine] at hs
    split_ifs at hs with hmem
    obtain ⟨r, hsend, hafter⟩ := h.step_send hmem
    rw [hsend] at hs
    cases hs
    exact hafter
  | alloc buf block =>
    simp only [macTaskMachine] at hs
    split_ifs at hs with hnone
    cases hs
    refine h.step_heap (fun a ha => Function.update_of_ne ?_ _ _) (h.owns.alloc hnone block) rfl
      (by simp) (Nat.zero_add count)
    rintro rfl
    exact h.owns.not_mem hnone (by simp [ha])
  | write buf block =>
    simp only [macTaskMachine] at hs
    split_ifs at hs with hmem
    cases hs
    refine h.step_heap (fun a ha => Function.update_of_ne ?_ _ _)
      (h.owns.write (List.mem_append_left _ hmem) block) rfl (by simp) (Nat.zero_add count)
    rintro rfl
    exact h.not_mem_of_block hmem ha
  | free buf =>
    simp only [macTaskMachine] at hs
    split_ifs at hs with hmem
    cases hs
    refine h.step_heap (fun a ha => Function.update_of_ne ?_ _ _) ?_ rfl (by simp)
      (Nat.zero_add count)
    · rintro rfl
      exact h.not_mem_of_block hmem ha
    · exact (h.owns.perm ((List.perm_cons_erase hmem).append_right _)).free

end MacAt

end SensorCollector
