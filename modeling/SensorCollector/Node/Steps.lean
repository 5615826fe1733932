import SensorCollector.Collector.Table
import SensorCollector.Device.Events
import SensorCollector.Node.Defs

set_option relaxedAutoImplicit false
set_option autoImplicit false

/-!
# The steps of the two classes and the data path

A collector and a device have steps of their own: their `process`, their timers and the callbacks of
the MAC. As far as the data path of a node is concerned, such a step is a data indication or nothing
at all.

## Main definitions

* `SensorCollector.Node.Indicated` — a node is left as it is, or receives an indication.

## Main results

* `SensorCollector.Node.indicated_collector`, `SensorCollector.Node.indicated_device` — this is all
  that the steps of the two classes do.
* `SensorCollector.Node.Indicated.txBuffer_eq`, `SensorCollector.Node.Indicated.wf_rxBuffer` — what
  it leaves as it is, and the invariant it keeps.
-/

namespace SensorCollector

namespace Node

/-- The buffers of `node'` are those of `node`, or of `node` after a data indication. -/
def Indicated (node node' : Node) : Prop :=
  node'.base = node.base ∨ ∃ pDataInd, node.dataIndCB pDataInd = some node'

/-- A step of a collector. -/
theorem indicated_collector {c c' : FifteenDotFourCollector} {step : CollectorStep}
    {calls : List MacCall} (hs : collectorMachine.step c step = some (c', calls)) :
    Indicated (.collector c) (.collector c') := by
  rcases (FifteenDotFourCollector.base_of_step hs).2 with hbase | ⟨pDataInd, hind⟩
  · exact Or.inl hbase
  · refine Or.inr ⟨pDataInd, ?_⟩
    rw [dataIndCB, hind]
    rfl

/-- A step of a device. -/
theorem indicated_device {d d' : FifteenDotFourDevice} {step : DeviceStep}
    {calls : List MacCall} (hs : deviceMachine.step d step = some (d', calls)) :
    Indicated (.device d) (.device d') := by
  rcases base_of_stepsTo (stepsTo_of_step hs) with hbase | ⟨pDataInd, hind⟩
  · exact Or.inl hbase
  · refine Or.inr ⟨pDataInd, ?_⟩
    rw [dataIndCB, hind]
    rfl

/-- An indication leaves the transmit buffer as it is. -/
theorem Indicated.txBuffer_eq {node node' : Node} (h : Indicated node node') :
    node'.base.txBuffer = node.base.txBuffer := by
  rcases h with hbase | ⟨pDataInd, hind⟩
  · rw [hbase]
  · rw [dataIndCB_eq_map, Option.map_eq_some_iff] at hind
    obtain ⟨b, hb, rfl⟩ := hind
    rw [base_withBase]
    exact FifteenDotFour.txBuffer_dataIndCB hb

/-- An indication keeps the receive buffer well-formed. -/
theorem Indicated.wf_rxBuffer {node node' : Node} (h : Indicated node node')
    (hwf : node.base.rxBuffer.Wf) :
    node'.base.rxBuffer.Wf ∧ node'.base.rxBuffer.capacity = node.base.rxBuffer.capacity := by
  rcases h with hbase | ⟨pDataInd, hind⟩
  · rw [hbase]
    exact ⟨hwf, rfl⟩
  · rw [dataIndCB_eq_map, Option.map_eq_some_iff] at hind
    obtain ⟨b, hb, rfl⟩ := hind
    rw [base_withBase]
    exact FifteenDotFour.wf_rxBuffer_dataIndCB hwf hb

end Node

end SensorCollector
