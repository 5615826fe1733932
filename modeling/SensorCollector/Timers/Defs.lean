import SensorCollector.Device.Defs
import SensorCollector.Lib.EventMachine
import SensorCollector.Lib.LinkedRecords
import SensorCollector.Osal.Defs

set_option relaxedAutoImplicit false
set_option autoImplicit false

/-!
# The timers of the operating-system port

The timers of `osal_port_timers.c`, with which the MAC has events set after a time. A timer is an
entry of a linked list, found by its task and its event, and has a clock of its own. When the clock
of a timer that does not reload expires, its entry is moved to a second list: the callback is a
software interrupt and must not free it. `OsalPortTimers_cleanUpTimers` frees the entries of this
list later, in the task of the MAC.

The functions on timers are critical sections. The clean-up is not, but it runs while the scheduler
is disabled, so only clocks can expire between its parts: a step of it is what it does between two
reads of the list.

An access to an entry or a clock that does not exist is undefined in C; here it gives `none`.

## Main definitions

* `SensorCollector.TimerEntry`, `SensorCollector.ClockObject` — the entries and the clocks.
* `SensorCollector.OsalPortTimers` — the state.
* `SensorCollector.OsalPortTimers.createTimerEntry`, `SensorCollector.OsalPortTimers.stopTimer`,
  `SensorCollector.OsalPortTimers.timerCb` and their siblings — the functions.
* `SensorCollector.TimerStep`, `SensorCollector.timersMachine` — the steps and the runs.
-/

namespace SensorCollector

open EventMachine

/-- `OsalPort_INVALIDPARAMETER`. -/
def osalPortInvalidParameter : UInt8 := 0x02

/-- `OsalPort_NO_TIMER_AVAIL`. -/
def osalPortNoTimerAvail : UInt8 := 0x08

/-! ## Entries and clocks -/

/-- An entry of a timer. -/
structure TimerEntry where
  clockHandle : Addr
  taskId : UInt8
  eventId : UInt32
  reload : Bool
  pNext : Option Addr
  deriving DecidableEq

/-- A clock object. When it expires it calls `timerCb` with its argument. -/
structure ClockObject where
  period : UInt32
  timeout : UInt32
  active : Bool
  arg : Addr
  deriving DecidableEq

/-- The entries that are allocated. -/
abbrev TimerHeap := Addr → Option TimerEntry

/-- The clock objects, by their handles. -/
abbrev Clocks := Addr → Option ClockObject

/-- The field `pNext` of an entry. -/
def timerField : LinkField Addr TimerEntry where
  get := TimerEntry.pNext
  set entry pNext := { entry with pNext := pNext }
  get_set _ _ := rfl
  set_set _ _ _ := rfl

namespace Clocks

/-- A clock object is changed. -/
def modify (clocks : Clocks) (handle : Addr) (f : ClockObject → ClockObject) : Option Clocks :=
  (clocks handle).map fun clock => Function.update clocks handle (some (f clock))

/-- `Clock_stop`. -/
def stop (clocks : Clocks) (handle : Addr) : Option Clocks :=
  clocks.modify handle fun clock => { clock with active := false }

/-- `Clock_setTimeout` and `Clock_start`. -/
def restart (clocks : Clocks) (handle : Addr) (timeoutTicks : UInt32) : Option Clocks :=
  clocks.modify handle fun clock => { clock with timeout := timeoutTicks, active := true }

/-- `Clock_delete`. -/
def delete (clocks : Clocks) (handle : Addr) : Option Clocks :=
  (clocks handle).map fun _ => Function.update clocks handle none

end Clocks

/-! ## The functions -/

/-- Where the clean-up is. -/
inductive CleanUp
  /-- It does not run. -/
  | idle
  /-- At the test `current != NULL`. -/
  | testing (current : Option Addr)
  /-- After the read of `current->pNext`. -/
  | freeing (current : Addr) (next : Option Addr)
  deriving DecidableEq

/-- The timers. -/
structure OsalPortTimers where
  heap : TimerHeap
  clocks : Clocks
  pTimerEntries : Option Addr
  pDeleteTimerEntries : Option Addr
  stackTaskID : UInt8
  stackEventID : UInt32
  cleanUp : CleanUp

/-- A call of `OsalPort_setEvent`: the task and the event. -/
abbrev SetEvent := UInt8 × UInt32

namespace OsalPortTimers

variable (s : OsalPortTimers)

/-- The test of the loop of `getTimerEntry`. -/
def isMeant (taskId : UInt8) (eventId : UInt32) (pTimerEntry : Addr) : Option Bool :=
  (s.heap pTimerEntry).map fun entry => decide (entry.taskId = taskId ∧ entry.eventId = eventId)

/-- `getTimerEntry`. -/
def getTimerEntry (taskId : UInt8) (eventId : UInt32) : Option (Option Addr) :=
  (LinkedList.walk (timerField.link s.heap) (s.isMeant taskId eventId) UInt32.size 0 none
    s.pTimerEntries).map LinkedList.Walk.cell

/-- `createTimerEntry`, with what `OsalPort_malloc` and `Clock_create` return: the timers and the
status. -/
def createTimerEntry (taskId : UInt8) (eventId timeout : UInt32) (reload : Bool)
    (block clock : Option Addr) : Option (OsalPortTimers × UInt8) := do
  let timeoutTicks := timeout * (1000 / clockTickPeriod)
  match ← s.getTimerEntry taskId eventId with
  | some pTimerEntry => do
    -- the status is the one from the start of the function
    let entry ← s.heap pTimerEntry
    let clocks ← s.clocks.stop entry.clockHandle
    let clocks ← clocks.restart entry.clockHandle timeoutTicks
    return ({ s with clocks := clocks }, osalPortNoTimerAvail)
  | none =>
    match block, clock with
    | none, _ => return (s, osalPortNoTimerAvail)
    | some _, none => return (s, osalPortNoTimerAvail)
    | some pNewTimerEntry, some clockHandle => do
      let period := if reload then timeoutTicks else 0
      let clocks := Function.update s.clocks clockHandle
        (some ⟨period, timeoutTicks, true, pNewTimerEntry⟩)
      let heap : TimerHeap := Function.update s.heap pNewTimerEntry
        (some ⟨clockHandle, taskId, eventId, reload, none⟩)
      let (heap, pTimerEntries) ←
        timerField.append UInt32.size heap s.pTimerEntries pNewTimerEntry
      let clocks ← Clocks.restart clocks clockHandle timeoutTicks
      return ({ s with heap := heap, clocks := clocks, pTimerEntries := pTimerEntries },
        osalPortSuccess)

/-- `OsalPortTimers_startTimer`. -/
def startTimer (taskId : UInt8) (eventId timeout : UInt32) (block clock : Option Addr) :
    Option (OsalPortTimers × UInt8) :=
  s.createTimerEntry taskId eventId timeout false block clock

/-- `OsalPortTimers_startReloadTimer`. -/
def startReloadTimer (taskId : UInt8) (eventId timeout : UInt32) (block clock : Option Addr) :
    Option (OsalPortTimers × UInt8) :=
  s.createTimerEntry taskId eventId timeout true block clock

/-- `OsalPortTimers_stopTimer`: the timers and the status. -/
def stopTimer (taskId : UInt8) (eventId : UInt32) : Option (OsalPortTimers × UInt8) := do
  match ← s.getTimerEntry taskId eventId with
  | none => return (s, osalPortInvalidParameter)
  | some pTimerEntry => do
    let entry ← s.heap pTimerEntry
    let clocks ← s.clocks.stop entry.clockHandle
    let clocks ← clocks.delete entry.clockHandle
    let (heap, pTimerEntries) ←
      timerField.unlink UInt32.size s.heap s.pTimerEntries pTimerEntry
    return ({ s with
        heap := Function.update heap pTimerEntry none
        clocks := clocks
        pTimerEntries := pTimerEntries }, osalPortSuccess)

/-- `OsalPortTimers_getTimerTimeout`, with what `Clock_getTimeout` returns: the time in
milliseconds. -/
def getTimerTimeout (taskId : UInt8) (eventId : UInt32) (timeoutTicks : UInt32) :
    Option UInt32 := do
  match ← s.getTimerEntry taskId eventId with
  | none => return 0
  | some pTimerEntry => do
    let entry ← s.heap pTimerEntry
    let _ ← s.clocks entry.clockHandle
    return timeoutTicks / (1000 / clockTickPeriod)

/-- `OsalPortTimers_registerCleanupEvent`. -/
def registerCleanupEvent (taskID : UInt8) (eventID : UInt32) : OsalPortTimers :=
  { s with stackTaskID := taskID, stackEventID := eventID }

/-- `timerCb`: the timers and the events that are set. -/
def timerCb (pTimerEntry : Addr) : Option (OsalPortTimers × List SetEvent) := do
  let entry ← s.heap pTimerEntry
  if entry.reload then return (s, [(entry.taskId, entry.eventId)])
  else do
    let clocks ← s.clocks.stop entry.clockHandle
    let (heap, pTimerEntries) ←
      timerField.unlink UInt32.size s.heap s.pTimerEntries pTimerEntry
    let heap ← timerField.setNext heap pTimerEntry none
    let (heap, pDeleteTimerEntries) ←
      timerField.append UInt32.size heap s.pDeleteTimerEntries pTimerEntry
    return ({ s with
        heap := heap
        clocks := clocks
        pTimerEntries := pTimerEntries
        pDeleteTimerEntries := pDeleteTimerEntries },
      [(entry.taskId, entry.eventId), (s.stackTaskID, s.stackEventID)])

/-- A clock expires: it is active no longer if it has no period, and its function is called. -/
def expire (clockHandle : Addr) : Option (OsalPortTimers × List SetEvent) := do
  let clock ← s.clocks clockHandle
  if clock.active then
    let clocks := Function.update s.clocks clockHandle
      (some { clock with active := decide (clock.period ≠ 0) })
    timerCb { s with clocks := clocks } clock.arg
  else none

/-- The next part of `OsalPortTimers_cleanUpTimers`. -/
def cleanUpTimers : Option OsalPortTimers :=
  match s.cleanUp with
  | .idle =>
    match s.pDeleteTimerEntries with
    | none => some s
    | some current => some { s with cleanUp := .testing (some current) }
  | .testing (some current) =>
    (timerField.link s.heap current).map fun next => { s with cleanUp := .freeing current next }
  | .freeing current next => do
    let entry ← s.heap current
    let clocks ← s.clocks.delete entry.clockHandle
    return { s with
      heap := Function.update s.heap current none
      clocks := clocks
      cleanUp := .testing next }
  | .testing none => some { s with pDeleteTimerEntries := none, cleanUp := .idle }

end OsalPortTimers

/-! ## Runs -/

/-- The uses of the timers. -/
inductive TimerStep
  | start (taskId : UInt8) (eventId timeout : UInt32) (reload : Bool) (block clock : Option Addr)
  | stop (taskId : UInt8) (eventId : UInt32)
  | getTimeout (taskId : UInt8) (eventId timeoutTicks : UInt32)
  | register (taskID : UInt8) (eventID : UInt32)
  /-- A clock expires. -/
  | expire (clockHandle : Addr)
  /-- The next part of the clean-up. -/
  | cleanUp
  deriving DecidableEq

/-- What the functions on timers return, and the events that are set. -/
inductive TimerOut
  | done
  | status (status : UInt8)
  | timeout (timeout : UInt32)
  | setEvents (events : List SetEvent)
  deriving DecidableEq

/-- An allocation can return this: there is nothing there. -/
def IsVacant {γ : Type} (at? : Addr → Option γ) (block : Option Addr) : Prop :=
  ∀ a ∈ block, at? a = none

instance {γ : Type} [DecidableEq γ] (at? : Addr → Option γ) (block : Option Addr) :
    Decidable (IsVacant at? block) :=
  Option.decidableForallMem block

/-- The timers as a machine. While the clean-up runs no task does, so only clocks can come in
between. -/
def timersMachine : EventMachine OsalPortTimers TimerStep TimerOut where
  step s
    | .start taskId eventId timeout reload block clock =>
      if s.cleanUp = .idle ∧ IsVacant s.heap block ∧ IsVacant s.clocks clock then
        (if reload then s.startReloadTimer taskId eventId timeout block clock
          else s.startTimer taskId eventId timeout block clock).map fun r => (r.1, .status r.2)
      else none
    | .stop taskId eventId =>
      if s.cleanUp = .idle then
        (s.stopTimer taskId eventId).map fun r => (r.1, .status r.2)
      else none
    | .getTimeout taskId eventId timeoutTicks =>
      if s.cleanUp = .idle then
        (s.getTimerTimeout taskId eventId timeoutTicks).map fun timeout => (s, .timeout timeout)
      else none
    | .register taskID eventID =>
      if s.cleanUp = .idle then some (s.registerCleanupEvent taskID eventID, .done) else none
    | .expire clockHandle => (s.expire clockHandle).map fun r => (r.1, .setEvents r.2)
    | .cleanUp => s.cleanUpTimers.map fun s => (s, .done)

end SensorCollector
