import SensorCollector.Firmware.Defs

set_option relaxedAutoImplicit false
set_option autoImplicit false

/-!
# The task of the MAC

The loop `macTaskFxn` of `macTask.c`. A round waits for the semaphore of the task, reads the event
flags and clears those that it has read. If the event of the messages is among them, it receives
messages until there are no more; then it handles the other events that it has read.

The semaphore counts: it can be taken once for each time that it was posted. The loop has no
critical sections of its own, so events can be set and messages can be sent between any two parts of
it, by interrupts even where the scheduler is disabled.

What `macExecute` and `macApp` do with an event or a message is in the library of the MAC. Here it
is any sequence of changes to blocks that are not in the queue, of events that are set and of
messages that are sent. All events but that of the messages are dispatched in one step, the one of
the radio among them, whose queue is not of interest here, nor is the pending message. The loop has
a test for twelve of them; a flag that it does not test is cleared and dropped.

## Main definitions

* `SensorCollector.MacPc`, `SensorCollector.MacTask` — where the task is, and the state.
* `SensorCollector.MacTaskEvent` — the events that the loop tests.
* `SensorCollector.MacStep`, `SensorCollector.macTaskMachine` — the steps and the runs.
* `SensorCollector.MacTask.Asleep` — the task waits.
-/

namespace SensorCollector

open EventMachine

/-- Where the task of the MAC is. -/
inductive MacPc
  /-- At `Semaphore_pend`. -/
  | waiting
  /-- At the read of the flags, the end of `OsalPort_waitEvent`. -/
  | reading
  /-- At `OsalPort_clearEvent`. -/
  | clearing
  /-- At `OsalPort_msgDequeue`. -/
  | receiving
  /-- At `OsalPort_MSG_Q_EMPTY`. -/
  | testing (pMsg : Option Addr)
  /-- At `OsalPort_clearEvent` or `OsalPort_setEvent` of `OsalPort_msgReceive`. -/
  | signalling (pMsg : Option Addr) (isEmpty : Bool)
  /-- After `OsalPort_msgReceive`. -/
  | handling (pMsg : Option Addr)
  /-- At the handlers of the other events. -/
  | dispatching
  deriving DecidableEq

/-- The message that the task has taken out of its queue. -/
def MacPc.hand : MacPc → Option Addr
  | .testing pMsg | .signalling pMsg _ | .handling pMsg => pMsg
  | _ => none

/-- The state of the task of the MAC. -/
structure MacTask where
  osal : OsalPort MacBody
  pc : MacPc
  macEvents : UInt32
  /-- The blocks of the heap that are not messages to the MAC. -/
  blocks : List Addr

/-- The steps of the task, and of what runs beside it. -/
inductive MacStep
  | pend
  | read
  | clear
  | take
  | look
  | signal
  /-- `macExecute` or `macApp` is called with the message. -/
  | handle
  /-- The other events are tested, and their handlers are called. -/
  | dispatch
  /-- An event of the MAC is set. -/
  | setEvent (eventFlag : UInt32)
  /-- A message is sent to the MAC. -/
  | send (pMsg : Addr)
  | alloc (buf : Addr) (block : MsgBlock MacBody)
  | write (buf : Addr) (block : MsgBlock MacBody)
  | free (buf : Addr)

/-- What the task does. -/
inductive MacOut
  | done
  /-- It executes a message. -/
  | execute (pMsg : Addr)
  /-- It tests the events of a word, and calls the handlers of those that it has one for. -/
  | events (macEvents : UInt32)
  deriving DecidableEq

/-- The events, other than that of the messages, for which the loop has a handler. -/
inductive MacTaskEvent
  | rxQueue
  | txComplete
  | responseWait
  | frameResponse
  | scan
  | expIndirect
  | startComplete
  | broadcastPend
  | csmaTim
  | txDataReq
  | bcTim
  | cleanUpTimers
  deriving DecidableEq

/-- The tests of the loop, in order. -/
def macTaskTests : List MacTaskEvent :=
  [.rxQueue, .txComplete, .responseWait, .frameResponse, .scan, .expIndirect, .startComplete,
    .broadcastPend, .csmaTim, .txDataReq, .bcTim, .cleanUpTimers]

/-- `Task_self` in the task of the MAC. -/
def macTaskHndl : ℕ := 0

/-- The task of the MAC as a machine. -/
def macTaskMachine : EventMachine MacTask MacStep MacOut where
  step s
    | .pend =>
      match s.pc with
      | .waiting =>
        (s.osal.semPend macTaskIdx).map fun osal =>
          ({ s with osal := osal, pc := .reading }, .done)
      | _ => none
    | .read =>
      match s.pc with
      | .reading =>
        s.osal.taskTbl[macTaskIdx]?.map fun task =>
          ({ s with macEvents := task.eventFlag, pc := .clearing }, .done)
      | _ => none
    | .clear =>
      match s.pc with
      | .clearing =>
        (s.osal.clearEvent macTaskHndl (OsalPort.taskIdOf macTaskIdx) s.macEvents).map fun osal =>
          ({ s with
            osal := osal
            pc := if s.macEvents &&& osalPortSysEventMsg ≠ 0 then .receiving else .dispatching },
            .done)
      | _ => none
    | .take =>
      match s.pc with
      | .receiving =>
        (s.osal.msgTake macTaskIdx).map fun r =>
          ({ s with osal := r.1, pc := .testing r.2 }, .done)
      | _ => none
    | .look =>
      match s.pc with
      | .testing pMsg =>
        (s.osal.msgQEmpty macTaskIdx).map fun isEmpty =>
          ({ s with pc := .signalling pMsg isEmpty }, .done)
      | _ => none
    | .signal =>
      match s.pc with
      | .signalling pMsg isEmpty =>
        (s.osal.msgSignal macTaskHndl macTaskIdx isEmpty).map fun osal =>
          ({ s with osal := osal, pc := .handling pMsg }, .done)
      | _ => none
    | .handle =>
      match s.pc with
      | .handling none => some ({ s with pc := .dispatching }, .done)
      | .handling (some pMsg) =>
        some ({ s with pc := .receiving, blocks := pMsg :: s.blocks }, .execute pMsg)
      | _ => none
    | .dispatch =>
      match s.pc with
      | .dispatching => some ({ s with macEvents := 0, pc := .waiting }, .events s.macEvents)
      | _ => none
    | .setEvent eventFlag =>
      (s.osal.setEvent (OsalPort.taskIdOf macTaskIdx) eventFlag).map fun r =>
        ({ s with osal := r.1 }, .done)
    | .send pMsg =>
      if pMsg ∈ s.blocks then
        (s.osal.msgSend (OsalPort.taskIdOf macTaskIdx) (some pMsg)).map fun r =>
          ({ s with osal := r.1, blocks := s.blocks.erase pMsg }, .done)
      else none
    | .alloc buf block =>
      if s.osal.heap buf = none then
        some ({ s with
          osal := { s.osal with heap := Function.update s.osal.heap buf (some block) }
          blocks := buf :: s.blocks }, .done)
      else none
    | .write buf block =>
      if buf ∈ s.blocks then
        some ({ s with
          osal := { s.osal with heap := Function.update s.osal.heap buf (some block) } }, .done)
      else none
    | .free buf =>
      if buf ∈ s.blocks then
        some ({ s with
          osal := { s.osal with heap := Function.update s.osal.heap buf none }
          blocks := s.blocks.erase buf }, .done)
      else none

/-- A step of a run of the task. -/
abbrev MacTransition := Transition MacTask MacStep MacOut

/-- The event flags of the task. -/
def MacTask.flags (s : MacTask) : UInt32 :=
  (s.osal.taskTbl[macTaskIdx]?.map TaskEntry.eventFlag).getD 0

/-- **The task waits**: it is at `Semaphore_pend`, which does not return. -/
def MacTask.Asleep (s : MacTask) : Prop := s.pc = .waiting ∧ s.osal.semPend macTaskIdx = none

end SensorCollector
