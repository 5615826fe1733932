import SensorCollector.Firmware.Delivery
import SensorCollector.Lib.EventMachine
import SensorCollector.MacTask.Steps

set_option relaxedAutoImplicit false
set_option autoImplicit false

/-!
# Runs of the task of the MAC

What holds of the loop of the MAC in every run, with events and messages that come between any two
of its parts.

When the task waits, all events that were set, and for which it has a handler, have been handled
since. All messages that were sent have been executed, unless one was sent at the end of the loop
over the messages, after the queue was found empty and before the event of the messages was cleared.
The scheduler is disabled there, so only an interrupt can do that; such a message is left until
another one is sent.

## Main definitions

* `SensorCollector.MacTask.boot` — the task before its first round.
* `SensorCollector.MacTask.Queues` — the messages in its queue.

## Main results

* `SensorCollector.macMessages_executed_once` — messages are executed once, in order.
* `SensorCollector.macEvents_handled` — no event is lost.
* `SensorCollector.mac_asleep_done` — what has been done when the task waits.
* `SensorCollector.mac_rounds` — how often the loop goes round.
* `SensorCollector.mac_calls_defined` — the port is used as it should be.
-/

namespace SensorCollector

open EventMachine LinkedList Ownership OsalPort

/-- The task before its first round: both tasks are registered. -/
def MacTask.boot : MacTask := ⟨bootPort, .waiting, 0, []⟩

/-- The messages in the queue of the task. -/
def MacTask.Queues (s : MacTask) (msgs : List Addr) : Prop :=
  ∃ task, s.osal.taskTbl[macTaskIdx]? = some task ∧ QueueAt s.osal.heap task.qHandle msgs

/-- The messages that are executed in a run. -/
def executedIn (tr : List MacTransition) : List Addr := tr.flatMap fun u => u.out.executed

variable {es : List MacStep} {tr : List MacTransition} {s : MacTask}

namespace MacAt

/-- The task before its first round. -/
theorem boot : MacAt .boot ⟨taskIdOf macTaskIdx, 0, none, some ⟨false, 0⟩, 0⟩ 0 [] where
  registered := serves_bootPort.1
  task_at := rfl
  sem := rfl
  queue := rfl
  owns := ⟨List.nodup_nil, fun a => by
    simp [MacTask.boot, bootPort, OsalPort.registerTask, MacPc.hand]⟩
  awake i hflag := absurd hflag not_hasFlag_zero
  idle _ := rfl

/-- **The invariant of every run**, with what has become of the messages and how often the semaphore
was taken. -/
theorem of_exec (hx : macTaskMachine.exec .boot es = some (tr, s)) :
    ∃ task count msgs, MacAt s task count msgs ∧
      es.flatMap MacStep.sent = executedIn tr ++ (s.pc.hand.toList ++ msgs) ∧
      tr.countP (fun u => u.event.isPend) + count = tr.countP (fun u => u.event.posts u.pre.pc) ∧
      ((∀ u ∈ tr, ¬ u.event.Unannounced u.pre.pc) →
        s.pc.Announced s.macEvents task.eventFlag msgs) := by
  refine macTaskMachine.exec_induction
    (P := fun es tr s => ∃ task count msgs, MacAt s task count msgs ∧
      es.flatMap MacStep.sent = executedIn tr ++ (s.pc.hand.toList ++ msgs) ∧
      tr.countP (fun u => u.event.isPend) + count = tr.countP (fun u => u.event.posts u.pre.pc) ∧
      ((∀ u ∈ tr, ¬ u.event.Unannounced u.pre.pc) →
        s.pc.Announced s.macEvents task.eventFlag msgs))
    ⟨_, 0, [], boot, rfl, rfl, fun _ hmsgs => absurd rfl hmsgs⟩ ?_ hx
  rintro es tr s e s' o - ⟨task, count, msgs, h, hfifo, hposted, hann⟩ hs
  obtain ⟨task', count', msgs', h', hmoved⟩ := h.step hs
  refine ⟨task', count', msgs', h', ?_, ?_, fun hnot => ?_⟩
  · have hstep := hmoved.fifo
    rw [executedIn] at hfifo ⊢
    rw [List.flatMap_append, List.flatMap_append, hfifo]
    simp only [List.flatMap_cons, List.flatMap_nil, List.append_nil, List.append_assoc] at hstep ⊢
    rw [hstep]
  · have hstep := hmoved.posted
    have hone (b : Bool) : (if b = true then 1 else 0) = b.toNat := by cases b <;> rfl
    rw [List.countP_append, List.countP_append, List.countP_singleton, List.countP_singleton, hone,
      hone]
    show _ + e.isPend.toNat + count' = _ + (e.posts s.pc).toNat
    omega
  · refine hmoved.announced (hnot ⟨s, e, o, s'⟩ (by simp)) (hann fun u hu => hnot u ?_)
    exact List.mem_append_left _ hu

/-- An event that is set or has been read stays so until it is dispatched. -/
theorem kept_of_exec {s₀ : MacTask} {task₀ : TaskEntry} {count₀ : ℕ} {msgs₀ : List Addr}
    (h₀ : MacAt s₀ task₀ count₀ msgs₀) {i : ℕ} (hi : i ≠ 15) (hset : HasFlag task₀.eventFlag i)
    (hx : macTaskMachine.exec s₀ es = some (tr, s)) :
    ∃ task count msgs, MacAt s task count msgs ∧
      (HasFlag task.eventFlag i ∨ HasFlag s.macEvents i ∨
        ∃ u ∈ tr, HasFlag u.out.dispatched i) := by
  refine macTaskMachine.exec_induction
    (P := fun _ tr s => ∃ task count msgs, MacAt s task count msgs ∧
      (HasFlag task.eventFlag i ∨ HasFlag s.macEvents i ∨ ∃ u ∈ tr, HasFlag u.out.dispatched i))
    ⟨task₀, count₀, msgs₀, h₀, Or.inl hset⟩ ?_ hx
  rintro es tr s e s' o - ⟨task, count, msgs, h, hkept⟩ hs
  obtain ⟨task', count', msgs', h', hmoved⟩ := h.step hs
  refine ⟨task', count', msgs', h', ?_⟩
  have hstep : HasFlag task.eventFlag i ∨ HasFlag s.macEvents i →
      HasFlag task'.eventFlag i ∨ HasFlag s'.macEvents i ∨
        ∃ u ∈ tr ++ [⟨s, e, o, s'⟩], HasFlag u.out.dispatched i := by
    intro hflag
    rcases hmoved.kept i hi hflag with hflag | hread | hdispatched
    · exact Or.inl hflag
    · exact Or.inr (Or.inl hread)
    · exact Or.inr (Or.inr ⟨⟨s, e, o, s'⟩, by simp, hdispatched⟩)
  rcases hkept with hflag | hread | ⟨u, hu, hdispatched⟩
  · exact hstep (Or.inl hflag)
  · exact hstep (Or.inr hread)
  · exact Or.inr (Or.inr ⟨u, List.mem_append_left _ hu, hdispatched⟩)

/-- **When the task waits** its semaphore is taken as often as it was posted, and no event is set or
has been read. -/
theorem of_asleep {task : TaskEntry} {count : ℕ} {msgs : List Addr} (h : MacAt s task count msgs)
    (hasleep : s.Asleep) :
    count = 0 ∧ (∀ i, ¬ HasFlag task.eventFlag i) ∧ s.macEvents = 0 := by
  obtain ⟨hpc, hwait⟩ := hasleep
  have hcount : count = 0 := by
    by_contra hne
    simp [semPend, h.task_at, h.sem, Semaphore.pend, Nat.pos_of_ne_zero hne] at hwait
  have hawake := h.awake
  rw [hpc, hcount] at hawake
  exact ⟨hcount, fun i hflag => absurd (hawake i hflag) (Nat.lt_irrefl 0), h.idle (Or.inl hpc)⟩

end MacAt

/-- An event is set and a message is sent. The task executes the message and handles the event, and
goes round once more, since the semaphore was posted twice. -/
def sampleMac : List MacStep :=
  [.setEvent 0x0010, .alloc 100 ⟨⟨none, 8, osalPortTaskNoTask⟩, .data⟩, .send 100, .pend, .read,
    .clear, .take, .look, .signal, .handle, .take, .look, .signal, .handle, .dispatch, .pend, .read,
    .clear, .dispatch]

/-- The run of these steps. -/
theorem exec_sampleMac : ∃ tr s, macTaskMachine.exec .boot sampleMac = some (tr, s) ∧ s.Asleep ∧
    ∀ u ∈ tr, ¬ u.event.Unannounced u.pre.pc := by
  have hend : (macTaskMachine.exec .boot sampleMac).map (fun r =>
      (r.2.pc, (r.2.osal.semPend macTaskIdx).isNone,
        r.1.all fun u => !decide (u.event.Unannounced u.pre.pc))) =
      some (.waiting, true, true) := by decide +kernel
  obtain ⟨⟨tr, s⟩, hx, hfacts⟩ := Option.map_eq_some_iff.mp hend
  simp only [Prod.mk.injEq, Option.isNone_iff_eq_none, List.all_eq_true, Bool.not_eq_true',
    decide_eq_false_iff_not] at hfacts
  exact ⟨tr, s, hx, ⟨hfacts.1, hfacts.2.1⟩, hfacts.2.2⟩

/-! ## Messages and events -/

/-- **Every message to the MAC is executed once, in order**: at every point of every run, the
messages that have been sent are those that have been executed, followed by the one in hand and
those in the queue. -/
theorem macMessages_executed_once (hx : macTaskMachine.exec .boot es = some (tr, s)) :
    ∃ msgs, s.Queues msgs ∧
      es.flatMap MacStep.sent = executedIn tr ++ (s.pc.hand.toList ++ msgs) := by
  obtain ⟨task, count, msgs, h, hfifo, -⟩ := MacAt.of_exec hx
  exact ⟨msgs, ⟨task, h.task_at, h.queue⟩, hfifo⟩

/-- A message is executed. -/
theorem macMessages_executed_once_sample : ∃ tr s msgs,
    macTaskMachine.exec .boot sampleMac = some (tr, s) ∧ s.Queues msgs ∧
      [100] = executedIn tr ++ (s.pc.hand.toList ++ msgs) := by
  obtain ⟨tr, s, hx, -⟩ := exec_sampleMac
  obtain ⟨msgs, hqueues, hfifo⟩ := macMessages_executed_once hx
  exact ⟨tr, s, msgs, hx, hqueues, hfifo⟩

/-- The events whose handlers are called, if the flag of each event is the bit that `flag` gives.
The header of the MAC gives the bits. -/
def MacOut.handled (flag : MacTaskEvent → ℕ) (o : MacOut) : List MacTaskEvent :=
  macTaskTests.filter fun e => HasFlag o.dispatched (flag e)

/-- The loop tests every event. -/
theorem mem_handled_iff {flag : MacTaskEvent → ℕ} {o : MacOut} {e : MacTaskEvent} :
    e ∈ o.handled flag ↔ HasFlag o.dispatched (flag e) := by
  have htests : e ∈ macTaskTests := by cases e <;> decide
  simp [MacOut.handled, htests]

/-- **No event is lost**: when the task waits, the handler of every event whose flag was set has
been called since, whatever the flags are, as long as they are not that of the messages. -/
theorem macEvents_handled (flag : MacTaskEvent → ℕ) {tr₁ tr₂ : List MacTransition}
    {t : MacTransition} {eventFlag : UInt32}
    (hx : macTaskMachine.exec .boot es = some (tr₁ ++ t :: tr₂, s))
    (ht : t.event = .setEvent eventFlag) {e : MacTaskEvent} (he : flag e ≠ 15)
    (hflag : HasFlag eventFlag (flag e)) (hasleep : s.Asleep) :
    ∃ u ∈ tr₂, e ∈ u.out.handled flag := by
  obtain ⟨hx₁, hs, hx₂⟩ := macTaskMachine.exec_cut hx
  obtain ⟨task, count, msgs, h, -⟩ := MacAt.of_exec hx₁
  obtain ⟨task', count', msgs', h', hmoved⟩ := h.step hs
  obtain ⟨task'', count'', msgs'', h'', hkept⟩ :=
    h'.kept_of_exec he (hmoved.set eventFlag ht _ hflag) hx₂
  obtain ⟨-, hnone, hread⟩ := h''.of_asleep hasleep
  rcases hkept with hflag | hflag | ⟨u, hu, hdispatched⟩
  · exact absurd hflag (hnone _)
  · rw [hread] at hflag
    exact absurd hflag not_hasFlag_zero
  · exact ⟨u, hu, mem_handled_iff.mpr hdispatched⟩

/-- Flags for the events. -/
def sampleFlag : MacTaskEvent → ℕ
  | .cleanUpTimers => 14
  | e => macTaskTests.idxOf e

/-- The end of a scan is handled. -/
theorem macEvents_handled_sample : ∃ t tr s,
    macTaskMachine.exec .boot sampleMac = some (t :: tr, s) ∧ s.Asleep ∧
      ∃ u ∈ tr, .scan ∈ u.out.handled sampleFlag := by
  obtain ⟨tr, s, hx, hasleep, -⟩ := exec_sampleMac
  obtain ⟨s', o, tr', -, -, rfl⟩ := macTaskMachine.exec_cons_eq_some.mp hx
  have hx' : macTaskMachine.exec .boot sampleMac =
      some ([] ++ ⟨.boot, .setEvent 0x0010, o, s'⟩ :: tr', s) := hx
  exact ⟨_, tr', s, hx, hasleep, macEvents_handled sampleFlag hx' rfl (by decide)
    (show HasFlag 0x0010 4 from rfl) hasleep⟩

/-- **What has been done when the task waits.** No event is set; and if no message was sent at the
end of the loop over the messages, between the test that the queue is empty and the clearing of the
event, the queue is empty and all messages that were sent have been executed. -/
theorem mac_asleep_done (hx : macTaskMachine.exec .boot es = some (tr, s)) (hasleep : s.Asleep) :
    s.flags = 0 ∧
      ((∀ u ∈ tr, ¬ u.event.Unannounced u.pre.pc) →
        s.Queues [] ∧ es.flatMap MacStep.sent = executedIn tr) := by
  obtain ⟨task, count, msgs, h, hfifo, -, hann⟩ := MacAt.of_exec hx
  obtain ⟨-, hnone, -⟩ := h.of_asleep hasleep
  refine ⟨?_, fun hnot => ?_⟩
  · rw [MacTask.flags, h.task_at]
    exact eq_zero_of_no_flag hnone
  · have hannounced := hann hnot
    rw [hasleep.1] at hannounced
    obtain rfl : msgs = [] := by
      by_contra hmsgs
      exact hnone 15 (hannounced hmsgs)
    refine ⟨⟨task, h.task_at, h.queue⟩, ?_⟩
    simpa [hasleep.1, MacPc.hand] using hfifo

/-- The task waits after two rounds. -/
theorem mac_asleep_done_sample : ∃ tr s, macTaskMachine.exec .boot sampleMac = some (tr, s) ∧
    s.Asleep ∧ s.flags = 0 ∧ s.Queues [] ∧ [100] = executedIn tr := by
  obtain ⟨tr, s, hx, hasleep, hannounced⟩ := exec_sampleMac
  obtain ⟨hflags, hdone⟩ := mac_asleep_done hx hasleep
  exact ⟨tr, s, hx, hasleep, hflags, (hdone hannounced).1, (hdone hannounced).2⟩

-- an interrupt sends a message at the end of the loop over the messages: the task waits, and the
-- message is in its queue
example : (macTaskMachine.exec .boot
    [.setEvent osalPortSysEventMsg, .alloc 100 ⟨⟨none, 8, osalPortTaskNoTask⟩, .data⟩, .pend, .read,
      .clear, .take, .look, .send 100, .signal, .handle, .dispatch, .pend, .read, .clear,
      .dispatch]).map (fun r =>
        (r.2.pc, (r.2.osal.semPend macTaskIdx).isNone, r.2.osal.msgQEmpty macTaskIdx)) =
    some (.waiting, true, some false) := by
  decide +kernel

/-- **How often the loop goes round.** When the task waits, it has gone round exactly as often as
its semaphore was posted: once for each event that was set and each message that was sent, and once
more for each call of `OsalPort_msgReceive` that found messages left in the queue. -/
theorem mac_rounds (hx : macTaskMachine.exec .boot es = some (tr, s)) (hasleep : s.Asleep) :
    tr.countP (fun u => u.event.isPend) = tr.countP (fun u => u.event.posts u.pre.pc) := by
  obtain ⟨task, count, msgs, h, -, hposted, -⟩ := MacAt.of_exec hx
  obtain ⟨hcount, -⟩ := h.of_asleep hasleep
  rw [hcount] at hposted
  exact hposted

/-- Two rounds, for an event and a message. -/
theorem mac_rounds_sample : ∃ tr s, macTaskMachine.exec .boot sampleMac = some (tr, s) ∧
    s.Asleep ∧
    tr.countP (fun u => u.event.isPend) = tr.countP (fun u => u.event.posts u.pre.pc) := by
  obtain ⟨tr, s, hx, hasleep, -⟩ := exec_sampleMac
  exact ⟨tr, s, hx, hasleep, mac_rounds hx hasleep⟩

/-- **The port is used as it should be**: in every run each part of the loop is defined when the
task comes to it, and events can be set and messages sent at any time. -/
theorem mac_calls_defined (hx : macTaskMachine.exec .boot es = some (tr, s)) :
    (s.pc = .reading → (macTaskMachine.step s .read).isSome) ∧
      (s.pc = .clearing → (macTaskMachine.step s .clear).isSome) ∧
      (s.pc = .receiving → (macTaskMachine.step s .take).isSome) ∧
      (∀ pMsg, s.pc = .testing pMsg → (macTaskMachine.step s .look).isSome) ∧
      (∀ pMsg isEmpty, s.pc = .signalling pMsg isEmpty →
        (macTaskMachine.step s .signal).isSome) ∧
      (∀ pMsg, s.pc = .handling (some pMsg) → (s.osal.heap pMsg).isSome) ∧
      (∀ eventFlag, (macTaskMachine.step s (.setEvent eventFlag)).isSome) ∧
      ∀ pMsg ∈ s.blocks, (macTaskMachine.step s (.send pMsg)).isSome := by
  obtain ⟨task, count, msgs, h, -⟩ := MacAt.of_exec hx
  refine ⟨?_, ?_, ?_, ?_, ?_, ?_, ?_, ?_⟩
  · intro hpc
    simp [macTaskMachine, hpc, h.task_at]
  · intro hpc
    simp [macTaskMachine, hpc, clearEvent_spec h.registered h.task_at]
  · intro hpc
    obtain ⟨r, htake, -⟩ := h.step_take hpc
    simp [macTaskMachine, hpc, htake]
  · intro pMsg hpc
    obtain ⟨isEmpty, hlook, -⟩ := h.step_look hpc
    simp [macTaskMachine, hpc, hlook]
  · intro pMsg isEmpty hpc
    obtain ⟨osal, hsignal, -⟩ := h.step_signal hpc
    simp [macTaskMachine, hpc, hsignal]
  · intro pMsg hpc
    exact (h.owns.isSome_iff pMsg).mpr (by simp [hpc, MacPc.hand])
  · intro eventFlag
    obtain ⟨r, hset, -⟩ := h.step_setEvent eventFlag
    simp [macTaskMachine, hset]
  · intro pMsg hmem
    obtain ⟨r, hsend, -⟩ := h.step_send hmem
    simp [macTaskMachine, hmem, hsend]

/-- The port is used in two rounds. -/
theorem mac_calls_defined_sample : ∃ tr s, macTaskMachine.exec .boot sampleMac = some (tr, s) ∧
    ∀ eventFlag, (macTaskMachine.step s (.setEvent eventFlag)).isSome := by
  obtain ⟨tr, s, hx, -⟩ := exec_sampleMac
  obtain ⟨-, -, -, -, -, -, hset, -⟩ := mac_calls_defined hx
  exact ⟨tr, s, hx, hset⟩

end SensorCollector
