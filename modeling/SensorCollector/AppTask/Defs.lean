import SensorCollector.Node.Steps

set_option relaxedAutoImplicit false
set_option autoImplicit false

/-!
# The application task

The loop of `appTaskFxn`, which owns the node `myNode`. Each iteration sends a message if the last
one was sent more than five seconds ago, then prints what has been received, then calls `process`.
The application is built for a collector or for a device, and the two builds have their own texts
and addresses.

The parts of the loop are steps of a machine, next to the steps of the node itself: its `process`,
its timers and the callbacks of the MAC. A run may take them in any order, so the runs include those
of the loop, with any frames delivered before it or between any two of its parts.

## Main definitions

* `SensorCollector.getCurrentTime`, `SensorCollector.SendDue` — the clock of the loop and its test.
* `SensorCollector.AppTask` — the variables of the task that live across iterations.
* `SensorCollector.AppTask.send`, `SensorCollector.AppTask.receive` — the parts of an iteration.
* `SensorCollector.AppTaskStep`, `SensorCollector.appTaskMachine` — the steps and the runs.

## Main results

* `SensorCollector.appTask_step_cases` — what a step can do.
-/

namespace SensorCollector

/-! ## The clock -/

/-- `getCurrentTime`: milliseconds, given what `Clock_getTicks` returns. -/
def getCurrentTime (ticks : UInt32) : UInt32 := ticks / (1000 / clockTickPeriod)

/-- The test of the loop for the next message. -/
def SendDue (now start : UInt32) : Prop := now - start > 5000

instance (now start : UInt32) : Decidable (SendDue now start) :=
  inferInstanceAs (Decidable (_ > _))

/-! ## Texts -/

/-- The characters of a literal. -/
def chars (text : String) : List UInt8 := text.toList.map fun c => UInt8.ofNat c.toNat

/-- An array of `char` initialised with a literal, which ends with its terminator. -/
def charArray (text : String) : List UInt8 := chars text ++ [0]

/-- The text that printing an array of `char` prints: what stands before the terminator. Without one
the printing runs over the end of the array, which is undefined. -/
def cString (buf : List UInt8) : Option (List UInt8) :=
  if 0 ∈ buf then some (buf.takeWhile (· ≠ 0)) else none

namespace Node

/-- The local `msg` of the loop. -/
def msg : Node → List UInt8
  | .collector _ => charArray "Hello World from Collector Node!"
  | .device _ => charArray "Hello World from Sensor Node!"

/-- The local `addr` of the loop. -/
def addr : Node → List UInt8
  | .collector _ => charArray "Short Address: 0xABAB"
  | .device _ => charArray "Short Address: 0x0001"

/-- The local `sendShortAddr` of the task. -/
def sendShortAddr : Node → UInt16
  | .collector _ => 0x0001
  | .device _ => 0xABAB

end Node

/-! ## The parts of an iteration -/

/-- The variables of the task that live across iterations. -/
structure AppTask where
  /-- `myNode`. -/
  node : Node
  /-- The time of the last message. -/
  start : UInt32

/-- What a step does outside the program. -/
inductive AppTaskCall
  /-- A call into the MAC. -/
  | mac (call : MacCall)
  /-- `Serial.println`. -/
  | println (text : List UInt8)
  deriving DecidableEq

namespace AppTask

/-- The first part: send a message if it is due. The clock is read before, at `ticks`, and once more
after the message, at `later`; the MAC returns `status` for the data request. -/
def send (app : AppTask) (ticks later : UInt32) (status : ApiMacStatus) :
    Option (AppTask × List AppTaskCall) :=
  let now := getCurrentTime ticks
  if SendDue now app.start then do
    let (_, node) ← app.node.beginTransmission 1
    let (_, node) ← node.writeBuf app.node.msg app.node.msg.length
    let (_, node) ← node.writeBuf app.node.addr app.node.addr.length
    let (dataReq, error) := node.endTransmission app.node.sendShortAddr status
    return ({ node := node, start := getCurrentTime later },
      .mac (.mcpsDataReq dataReq) ::
        if !error then [.println (chars "Failed to send msg")] else [])
  else some (app, [])

/-- The second part: print what has been received. The array `buf` is local and not initialised. The
number of bytes is kept in a `uint8_t`. -/
def receive (app : AppTask) (buf : List UInt8) : Option (AppTask × List AppTaskCall) :=
  let available := uint8OfInt app.node.available
  if available ≠ 0 then do
    let (_, buf, node) ← app.node.readBuf buf available
    let text ← cString buf
    return ({ app with node := node }, [.println text])
  else some (app, [])

end AppTask

/-! ## The steps of the task -/

/-- The number of bytes of the local array `buf`. -/
def bufSize : ℕ := 100

/-- The steps of the task and of its node. -/
inductive AppTaskStep
  | send (ticks later : UInt32) (status : ApiMacStatus)
  | receive (buf : List UInt8) (hbuf : buf.length = bufSize)
  /-- A step of the node, if it is a collector. -/
  | collector (step : CollectorStep)
  /-- A step of the node, if it is a device. -/
  | device (step : DeviceStep)

/-- The task as a machine. Its output is what a step does outside the program. -/
def appTaskMachine : EventMachine AppTask AppTaskStep (List AppTaskCall) where
  step app
    | .send ticks later status => app.send ticks later status
    | .receive buf _ => app.receive buf
    | .collector step =>
      match app.node with
      | .collector c =>
        (collectorMachine.step c step).map fun r =>
          ({ app with node := .collector r.1 }, r.2.map .mac)
      | .device _ => none
    | .device step =>
      match app.node with
      | .collector _ => none
      | .device d =>
        (deviceMachine.step d step).map fun r => ({ app with node := .device r.1 }, r.2.map .mac)

/-- A step of a run of the task. -/
abbrev AppTaskTransition := EventMachine.Transition AppTask AppTaskStep (List AppTaskCall)

/-- The second part of an iteration does nothing to the task, or reads from the node. -/
theorem AppTask.receive_cases {app app' : AppTask} {buf : List UInt8} {calls : List AppTaskCall}
    (hs : app.receive buf = some (app', calls)) : app' = app ∨
      ∃ size n buf' node', app.node.readBuf buf size = some (n, buf', node') ∧
        app' = { app with node := node' } := by
  simp only [receive] at hs
  split_ifs at hs
  · simp only [Option.bind_eq_bind, Option.bind_eq_some_iff, Option.pure_def, Option.some.injEq,
      Prod.mk.injEq] at hs
    obtain ⟨⟨n, buf', node'⟩, hread, text, -, rfl, -⟩ := hs
    exact Or.inr ⟨_, n, buf', node', hread, rfl⟩
  · exact Or.inl (Prod.mk.inj (Option.some.inj hs)).1.symm

/-- **What a step can do**: one of the parts of an iteration, or a step of the node. -/
theorem appTask_step_cases {app app' : AppTask} {step : AppTaskStep} {calls : List AppTaskCall}
    (hs : appTaskMachine.step app step = some (app', calls)) :
    (∃ ticks later status, step = .send ticks later status ∧
        app.send ticks later status = some (app', calls)) ∨
      (∃ buf hbuf, step = .receive buf hbuf ∧ app.receive buf = some (app', calls)) ∨
      ((∀ ticks later status, step ≠ .send ticks later status) ∧
        app.node.Indicated app'.node) := by
  cases step with
  | send ticks later status =>
    simp only [appTaskMachine] at hs
    exact Or.inl ⟨ticks, later, status, rfl, hs⟩
  | receive buf hbuf =>
    simp only [appTaskMachine] at hs
    exact Or.inr (Or.inl ⟨buf, hbuf, rfl, hs⟩)
  | collector step =>
    right; right
    simp only [appTaskMachine] at hs
    cases hnode : app.node with
    | collector c =>
      simp only [hnode, Option.map_eq_some_iff] at hs
      obtain ⟨⟨c', out⟩, hs, heq⟩ := hs
      obtain ⟨rfl, -⟩ := Prod.mk.inj heq
      exact ⟨nofun, Node.indicated_collector hs⟩
    | device d => simp [hnode] at hs
  | device step =>
    right; right
    simp only [appTaskMachine] at hs
    cases hnode : app.node with
    | collector c => simp [hnode] at hs
    | device d =>
      simp only [hnode, Option.map_eq_some_iff] at hs
      obtain ⟨⟨d', out⟩, hs, heq⟩ := hs
      obtain ⟨rfl, -⟩ := Prod.mk.inj heq
      exact ⟨nofun, Node.indicated_device hs⟩

end SensorCollector
