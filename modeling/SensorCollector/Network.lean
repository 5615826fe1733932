import Mathlib.Logic.Function.Basic
import SensorCollector.Node.Receive
import SensorCollector.Node.Steps
import SensorCollector.Node.Transmit

set_option relaxedAutoImplicit false
set_option autoImplicit false

/-!
# Networks

Any number of nodes, with the data requests that their MACs have taken. Every node does its own
steps in any order, and any frame can be delivered to any node, more than once or not at all, but as
it was sent. Beacons, and frames of nodes that are not part of the model, are data of the steps.

A collector sends to its own PAN. A device always sends to the PAN `0xFAFA`, whatever PAN it has
taken from a beacon. So the frames of the collector are received, and those of the device in this
PAN only. The PAN `0xFFFF` is none: a device that takes it can take another one later.

## Main definitions

* `SensorCollector.Network`, `SensorCollector.networkMachine` — the state of a network, its steps.
* `SensorCollector.Received` — a frame passes the test of its receiver and its payload is stored.
* `SensorCollector.DeliveredAfter` — a frame is delivered that was sent after a device took its PAN.
* `SensorCollector.AddressesAgree` — in a run, a collector and a device of a PAN receive each
  other's frames.

## Main results

* `SensorCollector.network_step_cases` — a step of a network is one of a single node.
* `SensorCollector.sends_of_exec` — every frame of a node has the same destination PAN.
* `SensorCollector.getPanID_of_exec` — a node that is settled in a PAN stays in it.
* `SensorCollector.addressesAgree_iff` — the runs in which the addresses agree.
-/

namespace SensorCollector

open EventMachine

/-- The indication of a frame that the MAC delivers as it was sent. -/
def ApiMacMcpsDataReq.indication (req : ApiMacMcpsDataReq) : ApiMacMcpsDataInd :=
  ⟨req.dstPanId, req.msdu⟩

/-- A network: its nodes, by number, and the data requests that were taken by the MAC, each with the
node it came from. -/
structure Network where
  nodes : ℕ → Node
  sent : List (ℕ × ApiMacMcpsDataReq)

/-- The network with one of its nodes replaced. -/
def Network.setNode (net : Network) (i : ℕ) (node : Node) : Network :=
  { net with nodes := Function.update net.nodes i node }

@[simp] theorem Network.nodes_setNode_self (net : Network) (i : ℕ) (node : Node) :
    (net.setNode i node).nodes i = node := by
  show Function.update net.nodes i node i = node
  exact Function.update_self i node net.nodes

/-- The steps of a network. -/
inductive NetworkEvent
  /-- An operation on the data path of node `i`. -/
  | data (i : ℕ) (op : NodeOp)
  /-- A step of node `i`, a collector. -/
  | collector (i : ℕ) (step : CollectorStep)
  /-- A step of node `i`, a device. -/
  | device (i : ℕ) (step : DeviceStep)
  /-- The delivery of frame `k` to node `j`. -/
  | deliver (k j : ℕ)

/-- A network as a machine. -/
def networkMachine : EventMachine Network NetworkEvent Unit where
  step net
    | .data i op =>
      (nodeMachine.step (net.nodes i) op).map fun r =>
        ({ net.setNode i r.1 with sent := net.sent ++ r.2.requests.map (i, ·) }, ())
    | .collector i step =>
      match net.nodes i with
      | .collector c =>
        (collectorMachine.step c step).map fun r => (net.setNode i (.collector r.1), ())
      | .device _ => none
    | .device i step =>
      match net.nodes i with
      | .collector _ => none
      | .device d => (deviceMachine.step d step).map fun r => (net.setNode i (.device r.1), ())
    | .deliver k j =>
      (net.sent[k]?).bind fun frame =>
        ((net.nodes j).dataIndCB (some frame.2.indication)).map fun node => (net.setNode j node, ())

/-- A step of a run. -/
abbrev NetworkStep := Transition Network NetworkEvent Unit

/-! ## The steps of a node -/

/-- What a single node can do in a step of the network. -/
inductive NodeMove : Node → Node → Prop
  | data {node node' : Node} {op : NodeOp} {out : NodeOut}
    (hs : nodeMachine.step node op = some (node', out)) : NodeMove node node'
  | collector {c c' : FifteenDotFourCollector} {step : CollectorStep} {calls : List MacCall}
    (hs : collectorMachine.step c step = some (c', calls)) :
    NodeMove (.collector c) (.collector c')
  | device {d d' : FifteenDotFourDevice} {step : DeviceStep} {calls : List MacCall}
    (hs : deviceMachine.step d step = some (d', calls)) : NodeMove (.device d) (.device d')
  | receive {node node' : Node} {pDataInd : Option ApiMacMcpsDataInd}
    (hind : node.dataIndCB pDataInd = some node') : NodeMove node node'

/-- **A step of a network** is one of a single node, and adds at most a data request of that node to
the frames. -/
theorem network_step_cases {net net' : Network} {event : NetworkEvent} {u : Unit}
    (hs : networkMachine.step net event = some (net', u)) :
    ∃ i node', NodeMove (net.nodes i) node' ∧ net'.nodes = Function.update net.nodes i node' ∧
      (net'.sent = net.sent ∨ ∃ address status,
        net'.sent = net.sent ++ [(i, ((net.nodes i).endTransmission address status).1)]) := by
  cases event with
  | data i op =>
    simp only [networkMachine, Option.map_eq_some_iff] at hs
    obtain ⟨⟨node', out⟩, hs, heq⟩ := hs
    obtain ⟨rfl, -⟩ := Prod.mk.inj heq
    refine ⟨i, node', .data hs, rfl, ?_⟩
    rcases (node_step_frame hs).2 with hnone | ⟨address, status, hreq⟩
    · left
      simp [hnone]
    · right
      exact ⟨address, status, by simp [hreq]⟩
  | collector i step =>
    simp only [networkMachine] at hs
    cases hnode : net.nodes i with
    | collector c =>
      simp only [hnode, Option.map_eq_some_iff] at hs
      obtain ⟨⟨c', calls⟩, hs, heq⟩ := hs
      obtain ⟨rfl, -⟩ := Prod.mk.inj heq
      exact ⟨i, .collector c', by rw [hnode]; exact .collector hs, rfl, Or.inl rfl⟩
    | device d => simp [hnode] at hs
  | device i step =>
    simp only [networkMachine] at hs
    cases hnode : net.nodes i with
    | collector c => simp [hnode] at hs
    | device d =>
      simp only [hnode, Option.map_eq_some_iff] at hs
      obtain ⟨⟨d', calls⟩, hs, heq⟩ := hs
      obtain ⟨rfl, -⟩ := Prod.mk.inj heq
      exact ⟨i, .device d', by rw [hnode]; exact .device hs, rfl, Or.inl rfl⟩
  | deliver k j =>
    simp only [networkMachine, Option.bind_eq_some_iff, Option.map_eq_some_iff] at hs
    obtain ⟨frame, -, node', hind, heq⟩ := hs
    obtain ⟨rfl, -⟩ := Prod.mk.inj heq
    exact ⟨j, node', .receive hind, rfl, Or.inl rfl⟩

/-- The node takes no other PAN: it is a collector, or a device that is in one. -/
def Node.Settled : Node → Prop
  | .collector _ => True
  | .device d => d.panID ≠ 0xFFFF

theorem Node.settled_withBase (node : Node) (b : FifteenDotFour) :
    (node.withBase b).Settled ↔ node.Settled := by
  cases node <;> rfl

/-- What a move leaves as it is: the PAN the node sends to, the PAN of a node that is settled in it,
and the invariant of the transmit buffer. -/
theorem NodeMove.keeps {node node' : Node} (h : NodeMove node node') :
    node'.dstPanId = node.dstPanId ∧
      (node.Settled → node'.getPanID = node.getPanID ∧ node'.Settled) ∧
      (node.base.txBuffer.Wf → node'.base.txBuffer.Wf) := by
  cases h with
  | data hs =>
    refine ⟨?_, ?_, fun hwf => wf_txBuffer_of_step hwf hs⟩
    · obtain ⟨b, rfl⟩ := (node_step_frame hs).1
      exact Node.dstPanId_withBase _ b
    · obtain ⟨b, rfl⟩ := (node_step_frame hs).1
      exact fun hset => ⟨Node.getPanID_withBase _ b, (Node.settled_withBase _ b).mpr hset⟩
  | collector hs =>
    have hpan := (FifteenDotFourCollector.base_of_step hs).1
    refine ⟨hpan, fun _ => ⟨hpan, trivial⟩, fun hwf => ?_⟩
    rw [(Node.indicated_collector hs).txBuffer_eq]
    exact hwf
  | device hs =>
    refine ⟨rfl, fun hset => ?_, fun hwf => ?_⟩
    · have hpan := panID_of_stepsTo (stepsTo_of_step hs) hset
      refine ⟨hpan, ?_⟩
      rw [Node.Settled, hpan]
      exact hset
    · rw [(Node.indicated_device hs).txBuffer_eq]
      exact hwf
  | receive hind =>
    rw [Node.dataIndCB_eq_map, Option.map_eq_some_iff] at hind
    obtain ⟨b, hb, rfl⟩ := hind
    refine ⟨Node.dstPanId_withBase _ b, fun hset => ?_, fun hwf => ?_⟩
    · exact ⟨Node.getPanID_withBase _ b, (Node.settled_withBase _ b).mpr hset⟩
    · rw [Node.base_withBase, FifteenDotFour.txBuffer_dataIndCB hb]
      exact hwf

/-- In a step of the network every node moves or stays as it is. -/
theorem network_step_node {net net' : Network} {event : NetworkEvent} {u : Unit}
    (hs : networkMachine.step net event = some (net', u)) (j : ℕ) :
    net'.nodes j = net.nodes j ∨ NodeMove (net.nodes j) (net'.nodes j) := by
  obtain ⟨i, node', hmove, hnodes, -⟩ := network_step_cases hs
  by_cases hij : j = i
  · subst hij
    right
    rw [hnodes, Function.update_self]
    exact hmove
  · left
    rw [hnodes, Function.update_of_ne hij]

/-! ## Senders -/

/-- The data request of a node with a well-formed transmit buffer has a valid payload: it starts at
the start of the block and is no longer than what is stored. -/
theorem valid_endTransmission {node : Node} (h : node.base.txBuffer.Wf) (address : UInt16)
    (status : ApiMacStatus) : (node.endTransmission address status).1.msdu.Valid := by
  have hlt := (node.base.txBuffer.ring h).size_lt_capacity
  rw [BufferT.capacity_ring h] at hlt
  have hlen : (UInt16.ofNat (uint8 (bufferGetSize node.base.txBuffer))).toNat ≤
      bufferGetSize node.base.txBuffer := by
    have hbyte : uint8 (bufferGetSize node.base.txBuffer) < UInt16.size :=
      (Nat.mod_lt _ (by decide)).trans (by decide)
    rw [UInt16.toNat_ofNat_of_lt' hbyte]
    exact Nat.mod_le _ 256
  rw [bufferGetSize_eq h] at hlen
  rw [Node.endTransmission_eq, FifteenDotFour.endTransmission]
  intro block hblock
  obtain rfl : node.base.txBuffer.buffer = block := Option.some.inj hblock
  rw [h.length_eq, bufferGetSize_eq h]
  exact hlen.trans hlt.le

/-- Node `i` sends to the PAN `q`: it would do so now, and all its frames have this destination and
a valid payload. -/
structure Sends (i : ℕ) (q : UInt16) (net : Network) : Prop where
  /-- The PAN the node sends to. -/
  dstPanId_eq : (net.nodes i).dstPanId = q
  /-- The transmit buffer is well-formed. -/
  wf : (net.nodes i).base.txBuffer.Wf
  /-- The frames of the node. -/
  frames : ∀ req, (i, req) ∈ net.sent → req.dstPanId = q ∧ req.msdu.Valid

/-- A step of the network keeps the PAN a node sends to. -/
theorem Sends.step {i : ℕ} {q : UInt16} {net net' : Network} {event : NetworkEvent} {u : Unit}
    (h : Sends i q net) (hs : networkMachine.step net event = some (net', u)) :
    Sends i q net' := by
  have hkeep : (net'.nodes i).dstPanId = q ∧ (net'.nodes i).base.txBuffer.Wf := by
    rcases network_step_node hs i with heq | hmove
    · rw [heq]
      exact ⟨h.dstPanId_eq, h.wf⟩
    · exact ⟨hmove.keeps.1.trans h.dstPanId_eq, hmove.keeps.2.2 h.wf⟩
  refine ⟨hkeep.1, hkeep.2, ?_⟩
  obtain ⟨n, -, -, -, hsent | ⟨address, status, hsent⟩⟩ := network_step_cases hs
  · rw [hsent]
    exact h.frames
  · rw [hsent]
    intro req hmem
    rcases List.mem_append.mp hmem with hold | hnew
    · exact h.frames req hold
    · obtain ⟨rfl, rfl⟩ := Prod.mk.inj (List.mem_singleton.mp hnew)
      refine ⟨?_, valid_endTransmission h.wf address status⟩
      rw [Node.endTransmission_eq]
      exact h.dstPanId_eq

/-- **Every frame of a node has the same destination PAN**, in every run of the network. -/
theorem sends_of_exec {i : ℕ} {q : UInt16} {net₀ net : Network} {events : List NetworkEvent}
    {tr : List NetworkStep} (h₀ : Sends i q net₀)
    (hx : networkMachine.exec net₀ events = some (tr, net)) : Sends i q net := by
  refine networkMachine.exec_induction (P := fun _ _ net => Sends i q net) h₀ ?_ hx
  intro _ _ net event net' u _ h hs
  exact h.step hs

/-! ## Receivers -/

/-- A step of the network keeps the PAN of a node that is settled in it. -/
theorem getPanID_of_step {net net' : Network} {event : NetworkEvent} {u : Unit} {j : ℕ}
    (hset : (net.nodes j).Settled) (hs : networkMachine.step net event = some (net', u)) :
    (net'.nodes j).getPanID = (net.nodes j).getPanID ∧ (net'.nodes j).Settled := by
  rcases network_step_node hs j with heq | hmove
  · rw [heq]
    exact ⟨rfl, hset⟩
  · exact hmove.keeps.2.1 hset

/-- **A node that is settled in a PAN stays in it**, in every run of the network. -/
theorem getPanID_of_exec {j : ℕ} {p : UInt16} {net₀ net : Network} {events : List NetworkEvent}
    {tr : List NetworkStep} (hset : (net₀.nodes j).Settled) (h₀ : (net₀.nodes j).getPanID = p)
    (hx : networkMachine.exec net₀ events = some (tr, net)) : (net.nodes j).getPanID = p := by
  have hrun : (net.nodes j).getPanID = p ∧ (net.nodes j).Settled := by
    refine networkMachine.exec_induction
      (P := fun _ _ net => (net.nodes j).getPanID = p ∧ (net.nodes j).Settled) ⟨h₀, hset⟩ ?_ hx
    intro _ _ net event net' u _ h hs
    obtain ⟨hpan, hset'⟩ := getPanID_of_step h.2 hs
    exact ⟨hpan.trans h.1, hset'⟩
  exact hrun.1

/-- In the step `t`, node `j` takes the PAN `p` from a beacon. -/
def AdoptsAt (j : ℕ) (p : UInt16) (t : NetworkStep) : Prop :=
  ∃ pData d, t.event = .device j (.beaconNotifyInd pData) ∧ t.pre.nodes j = .device d ∧
    d.Adopts pData ∧ pData.panDesc.coordPanId = p

/-- After it has taken a PAN, the node is in it, and is settled unless the PAN is `0xFFFF`. -/
theorem getPanID_of_adoptsAt {j : ℕ} {p : UInt16} {t : NetworkStep} (h : AdoptsAt j p t)
    (hs : networkMachine.step t.pre t.event = some (t.post, t.out)) :
    (t.post.nodes j).getPanID = p ∧ (p ≠ 0xFFFF → (t.post.nodes j).Settled) := by
  obtain ⟨pData, d, hevent, hnode, hadopts, rfl⟩ := h
  have hbeacon : deviceMachine.step d (.beaconNotifyInd pData) =
      some (d.beaconNotifyIndCb pData) := rfl
  rw [FifteenDotFourDevice.beaconNotifyIndCb_eq, if_pos hadopts] at hbeacon
  rw [hevent] at hs
  simp only [networkMachine, hnode, hbeacon, Option.map_some, Option.some.injEq, Prod.mk.injEq,
    and_true] at hs
  rw [← hs, Network.nodes_setNode_self]
  exact ⟨rfl, fun hp => hp⟩

/-- A node that has taken a PAN other than `0xFFFF` is in it at the end of the run. -/
theorem getPanID_of_adopted {j : ℕ} {p : UInt16} (hp : p ≠ 0xFFFF) {net₀ net : Network}
    {events : List NetworkEvent} {tr₁ tr₂ : List NetworkStep} {t : NetworkStep}
    (hx : networkMachine.exec net₀ events = some (tr₁ ++ t :: tr₂, net))
    (hadopts : AdoptsAt j p t) : (net.nodes j).getPanID = p := by
  obtain ⟨-, hs, hx₂⟩ := networkMachine.exec_cut hx
  obtain ⟨hpan, hset⟩ := getPanID_of_adoptsAt hadopts hs
  exact getPanID_of_exec (hset hp) hpan hx₂

/-- The frame `req` is received: it passes the test of the PAN, its payload is handed to the receive
buffer, and a well-formed receive buffer stores what it has room for. -/
structure Received (req : ApiMacMcpsDataReq) (receiver receiver' : Node) : Prop where
  /-- The frame has the PAN of the receiver. -/
  passes : req.dstPanId = receiver.getPanID
  /-- A payload goes to the receive buffer. -/
  handed : ∀ p, req.msdu.p = some p → 0 < req.msdu.len →
    ∃ n, bufferWriteMultiple receiver.base.rxBuffer p req.msdu.len.toNat =
      some (n, receiver'.base.rxBuffer)
  /-- The payload is appended as far as there is room. -/
  appended : receiver.base.rxBuffer.Wf → receiver'.stored = receiver.stored ++
    req.msdu.bytes.take (receiver.base.rxBuffer.capacity - 1 - receiver.stored.length)

/-- A frame with the PAN of its receiver is received. -/
theorem received_of_passes {req : ApiMacMcpsDataReq} {receiver receiver' : Node}
    (hvalid : req.msdu.Valid) (hpan : req.dstPanId = receiver.getPanID)
    (hs : receiver.dataIndCB (some req.indication) = some receiver') :
    Received req receiver receiver' := by
  rw [Node.dataIndCB_eq_map, Option.map_eq_some_iff] at hs
  obtain ⟨b, hb, rfl⟩ := hs
  refine ⟨hpan, ?_, ?_⟩
  · intro p hp hlen
    rw [Node.base_withBase]
    rw [FifteenDotFour.dataIndCB_of_passes hp hlen hpan, Option.map_eq_some_iff] at hb
    obtain ⟨⟨n, buf⟩, hbuf, rfl⟩ := hb
    exact ⟨n, hbuf⟩
  · intro hwf
    have hind : ∀ ind ∈ some req.indication, ind.msdu.Valid := by
      intro ind hmem
      obtain rfl := Option.some.inj hmem
      exact hvalid
    have hbytes : FifteenDotFour.indBytes receiver.getPanID (some req.indication) =
        req.msdu.bytes := if_pos hpan
    rw [FifteenDotFour.dataIndCB_eq hwf _ hind, hbytes, Option.some.injEq] at hb
    rw [← hb, stored_withRx hwf, RingBuffer.toList_offer, RingBuffer.accepted, Node.stored,
      storedBytes_eq hwf, RingBuffer.length_toList, RingBuffer.vacant, BufferT.capacity_ring]
    rw [RingBuffer.capacity_offer, BufferT.capacity_ring]

/-! ## A collector and a device -/

/-- Node `i` is a new collector that runs the PAN `p`, node `j` a new device that is configured to
join this PAN or any, and nothing has been sent yet. -/
structure Network.New (net : Network) (i j : ℕ) (p : UInt16) : Prop where
  /-- Node `i` is a collector. -/
  collector : ∃ c, net.nodes i = .collector c ∧ c.toFifteenDotFour.New ∧ c.panID = p
  /-- Node `j` is a device. -/
  device : ∃ d, net.nodes j = .device d ∧ d.toFifteenDotFour.New ∧
    (d.panID = 0xFFFF ∨ d.panID = p)
  /-- Nothing has been sent. -/
  sent_eq : net.sent = []

/-- In the history, a frame is delivered to node `r` in the step `u` that node `s` has sent after
node `j` took the PAN `p`. -/
def DeliveredAfter (tr : List NetworkStep) (j : ℕ) (p : UInt16) (s r : ℕ)
    (req : ApiMacMcpsDataReq) (u : NetworkStep) : Prop :=
  ∃ tr₁ t tr₂ tr₃ k, tr = tr₁ ++ t :: (tr₂ ++ u :: tr₃) ∧ AdoptsAt j p t ∧
    t.post.sent.length ≤ k ∧ u.event = .deliver k r ∧ u.pre.sent[k]? = some (s, req)

/-- The addresses agree in a run of a network with a collector `i` that runs the PAN `p` and a
device `j`: every frame that one of the two sends after the device took this PAN, and that is
delivered to the other, is received. -/
def AddressesAgree (tr : List NetworkStep) (i j : ℕ) (p : UInt16) : Prop :=
  (∀ req u, DeliveredAfter tr j p i j req u → Received req (u.pre.nodes j) (u.post.nodes j)) ∧
    ∀ req u, DeliveredAfter tr j p j i req u → Received req (u.pre.nodes i) (u.post.nodes i)

/-- A frame of a node is received exactly if its receiver is in the PAN that the node sends to. -/
theorem received_iff_of_deliver {s r k : ℕ} {q : UInt16} {u : NetworkStep}
    {req : ApiMacMcpsDataReq} (hsends : Sends s q u.pre)
    (hs : networkMachine.step u.pre u.event = some (u.post, u.out))
    (hevent : u.event = .deliver k r) (hframe : u.pre.sent[k]? = some (s, req)) :
    Received req (u.pre.nodes r) (u.post.nodes r) ↔ q = (u.pre.nodes r).getPanID := by
  obtain ⟨hdst, hvalid⟩ := hsends.frames req (List.mem_of_getElem? hframe)
  rw [hevent] at hs
  simp only [networkMachine, hframe, Option.bind_some, Option.map_eq_some_iff] at hs
  obtain ⟨node', hind, heq⟩ := hs
  obtain ⟨hpost, -⟩ := Prod.mk.inj heq
  rw [← hpost, Network.nodes_setNode_self]
  constructor
  · intro h
    exact hdst.symm.trans h.passes
  · intro hpan
    exact received_of_passes hvalid (hdst.trans hpan) hind

section New

variable {net₀ : Network} {i j : ℕ} {p : UInt16}

/-- The collector of a new network sends to its PAN. -/
theorem Network.New.sends_collector (h : net₀.New i j p) : Sends i p net₀ := by
  obtain ⟨c, hnode, hbase, rfl⟩ := h.collector
  refine ⟨by rw [hnode]; rfl, by rw [hnode]; exact hbase.wf.tx, ?_⟩
  rw [h.sent_eq]
  intro req hreq
  exact absurd hreq List.not_mem_nil

/-- The device of a new network sends to the PAN `0xFAFA`. -/
theorem Network.New.sends_device (h : net₀.New i j p) : Sends j 0xFAFA net₀ := by
  obtain ⟨d, hnode, hbase, -⟩ := h.device
  refine ⟨by rw [hnode]; rfl, by rw [hnode]; exact hbase.wf.tx, ?_⟩
  rw [h.sent_eq]
  intro req hreq
  exact absurd hreq List.not_mem_nil

variable {net : Network} {events : List NetworkEvent} {tr : List NetworkStep}
  {req : ApiMacMcpsDataReq} {u : NetworkStep}

/-- **A frame of the collector** is received exactly if the device is still in the PAN. -/
theorem received_iff_of_collector (hnew : net₀.New i j p)
    (hx : networkMachine.exec net₀ events = some (tr, net))
    (hdel : DeliveredAfter tr j p i j req u) :
    Received req (u.pre.nodes j) (u.post.nodes j) ↔ (u.pre.nodes j).getPanID = p := by
  obtain ⟨tr₁, t, tr₂, tr₃, k, rfl, -, -, hevent, hframe⟩ := hdel
  rw [← List.cons_append, ← List.append_assoc] at hx
  obtain ⟨hpre, hs⟩ := networkMachine.exec_split hx
  rw [received_iff_of_deliver (sends_of_exec hnew.sends_collector hpre) hs hevent hframe]
  exact eq_comm

/-- The device is still in the PAN, unless this is `0xFFFF`. -/
theorem getPanID_of_deliveredAfter {s r : ℕ}
    (hx : networkMachine.exec net₀ events = some (tr, net))
    (hdel : DeliveredAfter tr j p s r req u) (hp : p ≠ 0xFFFF) :
    (u.pre.nodes j).getPanID = p := by
  obtain ⟨tr₁, t, tr₂, tr₃, k, rfl, hadopts, -⟩ := hdel
  rw [← List.cons_append, ← List.append_assoc] at hx
  exact getPanID_of_adopted hp (networkMachine.exec_split hx).1 hadopts

/-- **A frame of the device** is received exactly if the PAN is `0xFAFA`. -/
theorem received_iff_of_device (hnew : net₀.New i j p)
    (hx : networkMachine.exec net₀ events = some (tr, net))
    (hdel : DeliveredAfter tr j p j i req u) :
    Received req (u.pre.nodes i) (u.post.nodes i) ↔ p = 0xFAFA := by
  obtain ⟨tr₁, t, tr₂, tr₃, k, rfl, -, -, hevent, hframe⟩ := hdel
  rw [← List.cons_append, ← List.append_assoc] at hx
  obtain ⟨hpre, hs⟩ := networkMachine.exec_split hx
  have hpan : (u.pre.nodes i).getPanID = p := by
    obtain ⟨c, hnode, -, hpanID⟩ := hnew.collector
    refine getPanID_of_exec ?_ ?_ hpre
    · rw [hnode]
      trivial
    · rw [hnode]
      exact hpanID
  rw [received_iff_of_deliver (sends_of_exec hnew.sends_device hpre) hs hevent hframe, hpan]
  exact eq_comm

/-- **When the addresses agree.** In a run of a network, the frames that a collector and a device
that has taken its PAN send each other are all received, if and only if no frame of the device is
delivered, or the PAN is `0xFAFA`; in the PAN `0xFFFF` the device must also not have taken another
one when a frame of the collector is delivered. -/
theorem addressesAgree_iff (hnew : net₀.New i j p)
    (hx : networkMachine.exec net₀ events = some (tr, net)) :
    AddressesAgree tr i j p ↔
      (p = 0xFFFF → ∀ req u, DeliveredAfter tr j p i j req u → (u.pre.nodes j).getPanID = p) ∧
        ∀ req u, DeliveredAfter tr j p j i req u → p = 0xFAFA := by
  have hcollector : (∀ req u, DeliveredAfter tr j p i j req u →
      Received req (u.pre.nodes j) (u.post.nodes j)) ↔
      (p = 0xFFFF → ∀ req u, DeliveredAfter tr j p i j req u →
        (u.pre.nodes j).getPanID = p) := by
    constructor
    · intro h _ req u hdel
      exact (received_iff_of_collector hnew hx hdel).mp (h req u hdel)
    · intro h req u hdel
      refine (received_iff_of_collector hnew hx hdel).mpr ?_
      by_cases hp : p = 0xFFFF
      · exact h hp req u hdel
      · exact getPanID_of_deliveredAfter hx hdel hp
  have hdevice : (∀ req u, DeliveredAfter tr j p j i req u →
      Received req (u.pre.nodes i) (u.post.nodes i)) ↔
      ∀ req u, DeliveredAfter tr j p j i req u → p = 0xFAFA :=
    forall₂_congr fun _ _ => forall_congr' fun hdel => received_iff_of_device hnew hx hdel
  exact and_congr hcollector hdevice

end New

/-- A beacon of a collector that runs the PAN `p` and permits association. -/
def beaconOf (p : UInt16) : ApiMacMlmeBeaconNotifyInd :=
  ⟨.normal, ⟨⟨0xABAB, .short⟩, p, 0x80FF, 3⟩⟩

/-- A new network: node 0 is a collector that runs the PAN `p`, the others are devices that join
any. -/
def sampleNetwork (p : UInt16) : Network where
  nodes
    | 0 => .collector (sampleCollector.setPanID p)
    | _ + 1 => .device (sampleDevice.setPanID 0xFFFF)
  sent := []

/-- The network is new. -/
theorem new_sampleNetwork (p : UInt16) : (sampleNetwork p).New 0 1 p where
  collector := ⟨_, rfl, ⟨0, _, 0, _, _, _, List.length_replicate, List.length_replicate, rfl⟩, rfl⟩
  device := ⟨_, rfl, ⟨0, _, 0, _, _, _, List.length_replicate, List.length_replicate, rfl⟩,
    Or.inl rfl⟩
  sent_eq := rfl

/-- In a run of this network, the collector gets a frame of a device in its PAN.

**Proof sketch.** A device takes the PAN from a beacon, writes a byte and sends it. -/
theorem exec_sampleNetwork (p : UInt16) :
    ∃ events tr net req u, networkMachine.exec (sampleNetwork p) events = some (tr, net) ∧
      DeliveredAfter tr 1 p 1 0 req u := by
  set net₀ := sampleNetwork p
  set d₀ := sampleDevice.setPanID 0xFFFF
  have hadopts : d₀.Adopts (beaconOf p) :=
    ⟨⟨rfl, show apimacSfsAssociationPermit 0x80FF ≠ 0 by decide,
      show FifteenDotFourDevice.checkBeaconOrder 0x80FF = true by decide⟩, Or.inl rfl⟩
  -- the device takes the PAN
  have hbeacon : deviceMachine.step d₀ (.beaconNotifyInd (beaconOf p)) =
      some (d₀.beaconNotifyIndCb (beaconOf p)) := rfl
  set node₁ := Node.device (d₀.beaconNotifyIndCb (beaconOf p)).1
  set net₁ := net₀.setNode 1 node₁
  have hs₁ : networkMachine.step net₀ (.device 1 (.beaconNotifyInd (beaconOf p))) =
      some (net₁, ()) := rfl
  have hmove₁ : NodeMove (.device d₀) node₁ := .device hbeacon
  have hwf₁ : node₁.base.txBuffer.Wf := hmove₁.keeps.2.2 (new_sampleNetwork p).sends_device.wf
  -- it writes a byte
  obtain ⟨node₂, out, hwrite⟩ :=
    step_defined hwf₁ (show (NodeOp.write 7).IsWrite ∨ _ from Or.inl trivial)
  set net₂ : Network :=
    { net₁.setNode 1 node₂ with sent := net₁.sent ++ out.requests.map (1, ·) }
  have hs₂ : networkMachine.step net₁ (.data 1 (.write 7)) = some (net₂, ()) := by
    simp only [networkMachine, net₁, Network.nodes_setNode_self, hwrite, Option.map_some]
    rfl
  -- it sends what it has written
  set req := (node₂.endTransmission 0xABAB .success).1 with hreq
  set net₃ : Network := { net₂.setNode 1 node₂ with sent := net₂.sent ++ [(1, req)] }
  have hnode₂ : net₂.nodes 1 = node₂ := net₁.nodes_setNode_self 1 node₂
  have hs₃ : networkMachine.step net₂ (.data 1 (.endTransmission 0xABAB .success)) =
      some (net₃, ()) := by
    simp only [networkMachine, nodeMachine, hnode₂, Option.map_some]
    cases node₂ <;> rfl
  -- the collector gets the frame
  have hframe : net₃.sent[net₂.sent.length]? = some (1, req) := List.getElem?_concat_length
  have hvalid : req.msdu.Valid := by
    rw [hreq]
    exact valid_endTransmission (wf_txBuffer_of_step hwf₁ hwrite) 0xABAB .success
  obtain ⟨node', hind⟩ : ∃ node', (net₃.nodes 0).dataIndCB (some req.indication) = some node' := by
    have hwf : (net₃.nodes 0).base.rxBuffer.Wf := by
      obtain ⟨c, hnode, hbase, -⟩ := (new_sampleNetwork p).collector
      have hnode₃ : net₃.nodes 0 = .collector c := hnode
      rw [hnode₃]
      exact hbase.wf.rx
    rw [Node.dataIndCB_eq_map, FifteenDotFour.dataIndCB_eq hwf _ fun ind hmem => ?_]
    · exact ⟨_, rfl⟩
    · obtain rfl := Option.some.inj hmem
      exact hvalid
  have hs₄ : networkMachine.step net₃ (.deliver net₂.sent.length 0) =
      some (net₃.setNode 0 node', ()) := by
    simp only [networkMachine, hframe, Option.bind_some, hind, Option.map_some]
  have hrun := (networkMachine.exec_cons_eq_some).mpr ⟨_, _, _, hs₁,
    (networkMachine.exec_cons_eq_some).mpr ⟨_, _, _, hs₂,
      (networkMachine.exec_cons_eq_some).mpr ⟨_, _, _, hs₃,
        (networkMachine.exec_cons_eq_some).mpr ⟨_, _, _, hs₄, networkMachine.exec_nil _, rfl⟩,
        rfl⟩, rfl⟩, rfl⟩
  exact ⟨_, _, _, req, _, hrun, [], _, [_, _], [], _, rfl,
    ⟨beaconOf p, d₀, rfl, rfl, hadopts, rfl⟩, Nat.zero_le _, rfl, hframe⟩

/-- In a run in the PAN `0xFAFA`, a frame of the device is delivered, and the addresses agree. -/
theorem addressesAgree_iff_0xFAFA : ∃ events tr net req u,
    networkMachine.exec (sampleNetwork 0xFAFA) events = some (tr, net) ∧
      DeliveredAfter tr 1 0xFAFA 1 0 req u ∧ AddressesAgree tr 0 1 0xFAFA := by
  obtain ⟨events, tr, net, req, u, hx, hdel⟩ := exec_sampleNetwork 0xFAFA
  refine ⟨events, tr, net, req, u, hx, hdel, ?_⟩
  exact (addressesAgree_iff (new_sampleNetwork 0xFAFA) hx).mpr
    ⟨fun heq => absurd heq (by decide), fun _ _ _ => rfl⟩

/-- The addresses do not agree in a run in the PAN `0x1234`: a frame of the device is lost. -/
theorem not_addressesAgree_0x1234 : ∃ events tr net,
    (sampleNetwork 0x1234).New 0 1 0x1234 ∧
      networkMachine.exec (sampleNetwork 0x1234) events = some (tr, net) ∧
      ¬ AddressesAgree tr 0 1 0x1234 := by
  obtain ⟨events, tr, net, req, u, hx, hdel⟩ := exec_sampleNetwork 0x1234
  refine ⟨events, tr, net, new_sampleNetwork 0x1234, hx, fun hagree => ?_⟩
  have hpan := (received_iff_of_device (new_sampleNetwork 0x1234) hx hdel).mp
    (hagree.2 req u hdel)
  exact absurd hpan (by decide)

end SensorCollector
