import SensorCollector.AppTask.Defs
import SensorCollector.Node.Transmit

set_option relaxedAutoImplicit false
set_option autoImplicit false

/-!
# The messages of the application

A message that is due is a run of operations on the node: the start of a transmission and two bulk
writes. The transmit buffer has room for both texts, so the data request carries them in full.

## Main definitions

* `SensorCollector.Node.greeting` — the writes of a message.

## Main results

* `SensorCollector.AppTask.send_of_due` — the first part of an iteration, as a run of the node.
* `SensorCollector.AppTask.carries_of_due` — a message carries both texts.
-/

namespace SensorCollector

open EventMachine

/-- The writes of a message. -/
def Node.greeting (node : Node) : List NodeOp :=
  [.writeBuf node.msg node.msg.length le_rfl, .writeBuf node.addr node.addr.length le_rfl]

/-- The writes of a message are writes. -/
theorem Node.isWrite_of_mem_greeting (node : Node) : ∀ op ∈ node.greeting, op.IsWrite := by
  simp [greeting, NodeOp.IsWrite]

/-- The writes of a message are given the two texts. -/
theorem Node.offered_greeting (node : Node) :
    node.greeting.flatMap NodeOp.offered = node.msg ++ node.addr := by
  simp [greeting, NodeOp.offered]

/-- The texts are short. -/
theorem Node.length_texts (node : Node) : (node.msg ++ node.addr).length < 256 := by
  cases node with
  | collector c =>
    show (charArray "Hello World from Collector Node!" ++
      charArray "Short Address: 0xABAB").length < 256
    decide
  | device d =>
    show (charArray "Hello World from Sensor Node!" ++
      charArray "Short Address: 0x0001").length < 256
    decide

namespace AppTask

/-- The first part of an iteration does nothing if no message is due. -/
theorem send_of_not_due {app : AppTask} {ticks later : UInt32} {status : ApiMacStatus}
    (hdue : ¬ SendDue (getCurrentTime ticks) app.start) :
    app.send ticks later status = some (app, []) := by
  rw [send, if_neg hdue]

/-- **The first part of an iteration**, when a message is due: the operations of the message, and
the data request for what they have written. -/
theorem send_of_due {app : AppTask} {ticks later : UInt32} {status : ApiMacStatus}
    (hdue : SendDue (getCurrentTime ticks) app.start) :
    app.send ticks later status =
      (nodeMachine.exec app.node (.beginTransmission 1 :: app.node.greeting)).map fun r =>
        ({ node := r.2, start := getCurrentTime later },
          .mac (.mcpsDataReq (r.2.endTransmission app.node.sendShortAddr status).1) ::
            if !(r.2.endTransmission app.node.sendShortAddr status).2 then
              [.println (chars "Failed to send msg")] else []) := by
  rw [send, if_pos hdue, Node.greeting]
  simp only [exec, nodeMachine]
  cases app.node.beginTransmission 1 with
  | none => rfl
  | some r₁ =>
    cases hmsg : r₁.2.writeBuf app.node.msg app.node.msg.length with
    | none => simp [hmsg]
    | some r₂ =>
      cases haddr : r₂.2.writeBuf app.node.addr app.node.addr.length with
      | none => simp [hmsg, haddr]
      | some r₃ => simp [hmsg, haddr]

/-- A message leaves the receive buffer as it is. -/
theorem rxBuffer_of_send {app app' : AppTask} {ticks later : UInt32} {status : ApiMacStatus}
    {calls : List AppTaskCall} (hs : app.send ticks later status = some (app', calls)) :
    app'.node.base.rxBuffer = app.node.base.rxBuffer := by
  by_cases hdue : SendDue (getCurrentTime ticks) app.start
  · rw [send_of_due hdue, Option.map_eq_some_iff] at hs
    obtain ⟨⟨tr, node'⟩, hx, heq⟩ := hs
    obtain ⟨rfl, -⟩ := Prod.mk.inj heq
    refine rxBuffer_of_exec ?_ hx
    intro op hop
    rcases List.mem_cons.mp hop with rfl | hop
    · exact Or.inr trivial
    · exact Or.inl (app.node.isWrite_of_mem_greeting op hop)
  · rw [send_of_not_due hdue] at hs
    obtain ⟨rfl, -⟩ := Prod.mk.inj (Option.some.inj hs)
    rfl

/-- **A message carries both texts**, to the address of the other node.

**Proof sketch.** The texts have less than 256 bytes together, so the data request carries what was
written, and what was written is what was given. -/
theorem carries_of_due {app : AppTask} {tr₀ : List NodeStep} (h : TransmitInv tr₀ app.node)
    {ticks : UInt32} (later : UInt32) (status : ApiMacStatus)
    (hdue : SendDue (getCurrentTime ticks) app.start) :
    ∃ app' calls dataReq, app.send ticks later status = some (app', calls) ∧
      .mac (.mcpsDataReq dataReq) ∈ calls ∧
      dataReq.msdu.bytes = app.node.msg ++ app.node.addr ∧
      dataReq.dstAddr = ⟨app.node.sendShortAddr, .short⟩ ∧
      ∃ tr, TransmitInv tr app'.node := by
  obtain ⟨tr, node', hx, hinv, -, hoffered⟩ :=
    exec_transmission h 1 app.node.isWrite_of_mem_greeting
  rw [app.node.offered_greeting] at hoffered
  have hlen := app.node.length_texts
  have hmsdu := (msdu_eq_sinceFlush_iff hinv app.node.sendShortAddr status).mpr
    (by rw [hoffered]; exact hlen)
  have hstored : sinceFlush writtenPart (tr₀ ++ tr) = app.node.msg ++ app.node.addr := by
    rw [← hinv.written, hinv.offered, hoffered, List.take_of_length_le (by rw [mtu]; omega)]
  refine ⟨_, _, (node'.endTransmission app.node.sendShortAddr status).1,
    by rw [send_of_due hdue, hx]; rfl, List.mem_cons_self, ?_, ?_, _, hinv⟩
  · rw [hmsdu, hstored]
  · rw [Node.endTransmission_eq]
    rfl

end AppTask

end SensorCollector
