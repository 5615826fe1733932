import Mathlib.Data.List.TakeWhile
import SensorCollector.AppTask.Send
import SensorCollector.Node.Receive

set_option relaxedAutoImplicit false
set_option autoImplicit false

/-!
# The receive part of the application

The loop reads what is available into an array of 100 bytes and prints it as a string. What it asks
for is not compared with the size of the array, and the bytes that it gets are those of the frames,
which need not contain a terminator. So it is up to the stored bytes whether the read stays inside
the array and the printing inside the bytes that were read.

## Main definitions

* `SensorCollector.ReceivesInside` — the receive part stays inside its array and prints what it has
  read.
* `SensorCollector.StoredFits` — the condition on the stored bytes.

## Main results

* `SensorCollector.receivesInside_iff_storedFits` — the receive part stays inside its array exactly
  if the stored bytes meet the condition, in every run.
* `SensorCollector.AppTask.RxWf.receive_eq_of_storedFits` — what it prints then.
-/

namespace SensorCollector

/-- The receive part of an iteration stays inside its array of 100 bytes, and prints what it has
read: it is defined whatever the array held before, so neither the read nor the printing goes beyond
the array, and the printing ends among the bytes that were read. -/
def ReceivesInside (app : AppTask) : Prop :=
  ∀ buf : List UInt8, buf.length = bufSize → (app.receive buf).isSome = true

/-- The stored bytes that the receive part reads: as many as eight bits leave of their number. They
fit the array, are in one piece in the block, and one of them is a terminator. -/
def StoredFits (app : AppTask) : Prop :=
  app.node.stored.length % 256 ≠ 0 →
    app.node.stored.length % 256 ≤ bufSize ∧
    app.node.base.rxBuffer.readIndex + app.node.stored.length % 256 ≤ mtu * 2 ∧
    0 ∈ app.node.stored.take (app.node.stored.length % 256)

/-- The receive buffer of the task is well-formed, with the capacity of the constructor. -/
structure AppTask.RxWf (app : AppTask) : Prop where
  wf : app.node.base.rxBuffer.Wf
  capacity_eq : app.node.base.rxBuffer.capacity = mtu * 2

/-! ## One step -/

/-- The number of bytes the loop finds available. -/
theorem uint8OfInt_available {node : Node} (h : node.base.rxBuffer.Wf) :
    uint8OfInt node.available = node.stored.length % 256 := by
  rw [available_eq h, uint8OfInt]
  omega

/-- The read of the loop gets the bytes that it asks for, if they fit the array and are in one
piece. -/
theorem readBuf_stored {node : Node} (h : node.base.rxBuffer.Wf)
    (hcap : node.base.rxBuffer.capacity = mtu * 2) (buf : List UInt8) :
    node.readBuf buf (node.stored.length % 256) =
      if node.stored.length % 256 ≤ buf.length ∧
          node.base.rxBuffer.readIndex + node.stored.length % 256 ≤ mtu * 2 then
        some (node.stored.length % 256, buf.blit 0 (node.stored.take (node.stored.length % 256)),
          node.withBase (node.base.withRx ((node.base.rxBuffer.ring h).skip
            (node.stored.length % 256))))
      else none := by
  rw [readBuf_eq h hcap, Nat.min_self]

/-- The bytes that are read are as many as are asked for. -/
theorem length_take_stored (node : Node) :
    (node.stored.take (node.stored.length % 256)).length = node.stored.length % 256 :=
  List.length_take_of_le (Nat.mod_le _ 256)

/-- The first bytes of the array after the read are the bytes that were read. -/
theorem take_blit_stored (node : Node) (buf : List UInt8) :
    (buf.blit 0 (node.stored.take (node.stored.length % 256))).take (node.stored.length % 256) =
      node.stored.take (node.stored.length % 256) := by
  have hlen := length_take_stored node
  have hblit := List.take_blit_zero buf (node.stored.take (node.stored.length % 256))
  rwa [hlen] at hblit

/-- Printing an array with a terminator among its first bytes prints the part of them before it. -/
theorem cString_eq_of_mem_take {buf : List UInt8} {n : ℕ} (hzero : 0 ∈ buf.take n) :
    cString buf = some ((buf.take n).takeWhile (· ≠ 0)) := by
  have hshort : ((buf.take n).takeWhile (· ≠ 0)).length ≠ (buf.take n).length := by
    intro hlen
    have hall := List.takeWhile_eq_self_iff.mp
      ((List.takeWhile_prefix fun b : UInt8 => b ≠ 0).eq_of_length hlen)
    simpa using hall 0 hzero
  rw [cString, if_pos (List.mem_of_mem_take hzero)]
  nth_rewrite 1 [← List.take_append_drop n buf]
  rw [List.takeWhile_append, if_neg hshort]

/-- **What the receive part prints** when the stored bytes meet the condition: those it reads, up to
the first terminator. -/
theorem AppTask.RxWf.receive_eq_of_storedFits {app : AppTask} (h : app.RxWf) {buf : List UInt8}
    (hbuf : buf.length = bufSize) (hfits : StoredFits app)
    (hne : app.node.stored.length % 256 ≠ 0) :
    app.receive buf =
      some ({ app with
          node := app.node.withBase (app.node.base.withRx ((app.node.base.rxBuffer.ring h.wf).skip
            (app.node.stored.length % 256))) },
        [.println ((app.node.stored.take (app.node.stored.length % 256)).takeWhile (· ≠ 0))]) := by
  obtain ⟨hn, hseg, hzero⟩ := hfits hne
  rw [← take_blit_stored app.node buf] at hzero
  have htext := cString_eq_of_mem_take hzero
  rw [take_blit_stored] at htext
  have havail := uint8OfInt_available h.wf
  have hread := readBuf_stored h.wf h.capacity_eq buf
  rw [if_pos ⟨by omega, hseg⟩] at hread
  rw [receive]
  simp only
  rw [if_pos (by rw [havail]; exact hne), havail, hread, Option.bind_eq_bind, Option.bind_some]
  simp only
  rw [htext]
  rfl

/-- If the receive part is defined for an array that holds no terminator, the stored bytes meet the
condition: the terminator that the printing finds is among the bytes that were read. -/
theorem AppTask.RxWf.terminator_of_receive {app : AppTask} (h : app.RxWf)
    (hne : app.node.stored.length % 256 ≠ 0)
    (hdef : (app.receive (List.replicate bufSize 1)).isSome = true) :
    app.node.stored.length % 256 ≤ bufSize ∧
      app.node.base.rxBuffer.readIndex + app.node.stored.length % 256 ≤ mtu * 2 ∧
      0 ∈ app.node.stored.take (app.node.stored.length % 256) := by
  have havail := uint8OfInt_available h.wf
  have hread := readBuf_stored h.wf h.capacity_eq (List.replicate bufSize 1)
  rw [receive] at hdef
  simp only at hdef
  rw [if_pos (by rw [havail]; exact hne), havail, hread, List.length_replicate] at hdef
  by_cases hfits : app.node.stored.length % 256 ≤ bufSize ∧
      app.node.base.rxBuffer.readIndex + app.node.stored.length % 256 ≤ mtu * 2
  · refine ⟨hfits.1, hfits.2, ?_⟩
    rw [if_pos hfits, Option.bind_eq_bind, Option.bind_some] at hdef
    have hzero : (0 : UInt8) ∈ (List.replicate bufSize (1 : UInt8)).blit 0
        (app.node.stored.take (app.node.stored.length % 256)) := by
      by_contra hno
      rw [cString, if_neg hno] at hdef
      cases hdef
    rw [List.blit, List.take_zero, List.nil_append, List.mem_append] at hzero
    refine hzero.resolve_right fun hrest => ?_
    have hone := List.eq_of_mem_replicate (List.mem_of_mem_drop hrest)
    exact absurd hone (by decide)
  · rw [if_neg hfits] at hdef
    cases hdef

/-- **The receive part stays inside its array exactly if the stored bytes meet the condition.** -/
theorem AppTask.RxWf.receivesInside_iff {app : AppTask} (h : app.RxWf) :
    ReceivesInside app ↔ StoredFits app := by
  constructor
  · intro hinside hne
    exact h.terminator_of_receive hne (hinside _ List.length_replicate)
  · intro hfits buf hbuf
    by_cases hne : app.node.stored.length % 256 = 0
    · rw [receive]
      simp only
      rw [if_neg (by rw [uint8OfInt_available h.wf]; exact not_not.mpr hne)]
      rfl
    · rw [h.receive_eq_of_storedFits hbuf hfits hne]
      rfl

/-- Every step keeps the receive buffer well-formed. -/
theorem AppTask.RxWf.step {app app' : AppTask} (h : app.RxWf) {step : AppTaskStep}
    {calls : List AppTaskCall} (hs : appTaskMachine.step app step = some (app', calls)) :
    app'.RxWf := by
  rcases appTask_step_cases hs with ⟨ticks, later, status, rfl, hsend⟩ |
    ⟨buf, hbuf, rfl, hreceive⟩ | ⟨-, hind⟩
  · have hrx := AppTask.rxBuffer_of_send hsend
    exact ⟨hrx ▸ h.wf, hrx ▸ h.capacity_eq⟩
  · rcases AppTask.receive_cases hreceive with rfl | ⟨size, _, _, node', hread, rfl⟩
    · exact h
    · rw [readBuf_eq h.wf h.capacity_eq, Option.ite_none_right_eq_some, Option.some.injEq,
        Prod.mk.injEq, Prod.mk.injEq] at hread
      obtain ⟨-, -, -, rfl⟩ := hread
      refine ⟨?_, ?_⟩
      · rw [Node.base_withBase]
        exact BufferT.wf_withRing h.wf (BufferT.capacity_ring h.wf)
      · rw [Node.base_withBase]
        exact h.capacity_eq
  · obtain ⟨hwf, hcap⟩ := hind.wf_rxBuffer h.wf
    exact ⟨hwf, hcap.trans h.capacity_eq⟩

/-! ## Runs -/

/-- The receive buffer of a new node is well-formed. -/
theorem AppTask.RxWf.init {node : Node} {rxBase : ℕ} {rxBytes : List UInt8}
    {txBlock : Option (ℕ × List UInt8)} {raw : FifteenDotFour} {dev : Bool}
    (hrx : rxBytes.length = mtu * 2)
    (hbase : node.base = .construct (some (rxBase, rxBytes)) txBlock raw dev) (start : UInt32) :
    (AppTask.mk node start).RxWf :=
  have hinv := ReceiveInv.init hrx hbase
  ⟨hinv.wf, hinv.capacity_eq⟩

/-- The receive buffer is well-formed in every run. -/
theorem rxWf_of_exec {app₀ app : AppTask} {steps : List AppTaskStep}
    {tr : List AppTaskTransition} (h₀ : app₀.RxWf)
    (hx : appTaskMachine.exec app₀ steps = some (tr, app)) : app.RxWf := by
  refine appTaskMachine.exec_induction (P := fun _ _ app => app.RxWf) h₀ ?_ hx
  intro _ _ app step app' calls _ h hs
  exact h.step hs

/-- **The receive part stays inside its array exactly if the stored bytes meet the condition.**
After any run of the task with a new node, with any frames delivered in between, the next receive
part is defined, whatever its array of 100 bytes held before, if and only if the bytes that it asks
for fit the array, are in one piece in the block, and contain a terminator.

**Proof sketch.** The receive buffer is well-formed in every run (`rxWf_of_exec`), and there the
read gets what it asks for or is undefined (`AppTask.RxWf.receivesInside_iff`). An array without a
terminator shows that the one that ends the printing is among the bytes that were read. -/
theorem receivesInside_iff_storedFits {node : Node} {rxBase : ℕ} {rxBytes : List UInt8}
    {txBlock : Option (ℕ × List UInt8)} {raw : FifteenDotFour} {dev : Bool}
    (hrx : rxBytes.length = mtu * 2)
    (hbase : node.base = .construct (some (rxBase, rxBytes)) txBlock raw dev) {start : UInt32}
    {steps : List AppTaskStep} {tr : List AppTaskTransition} {app : AppTask}
    (hx : appTaskMachine.exec ⟨node, start⟩ steps = some (tr, app)) :
    ReceivesInside app ↔ StoredFits app :=
  (rxWf_of_exec (AppTask.RxWf.init hrx hbase start) hx).receivesInside_iff

/-- A frame that a collector receives is a step of the task. -/
theorem appTask_step_frame {c : FifteenDotFourCollector} {node' : Node} {start : UInt32}
    {pDataInd : Option ApiMacMcpsDataInd} {hvalid : ∀ ind ∈ pDataInd, ind.msdu.Valid}
    (hs : receiveMachine.step (.collector c) (.dataInd pDataInd hvalid) = some (node', none)) :
    appTaskMachine.step ⟨.collector c, start⟩ (.collector (.dataInd pDataInd)) =
      some (⟨node', start⟩, []) := by
  simp only [receiveMachine, Node.dataIndCB, Option.map_map, Option.map_eq_some_iff,
    Function.comp_apply, Prod.mk.injEq, and_true] at hs
  obtain ⟨c', hind, rfl⟩ := hs
  simp [appTaskMachine, collectorMachine, hind]

/-- A new collector that has received a frame of `n` bytes. -/
theorem exec_sampleFrame {n : ℕ} (hn : n < mtu * 2) :
    ∃ tr node, appTaskMachine.exec ⟨.collector sampleCollector, 0⟩
        [.collector (.dataInd (some (sampleFrame n)))] = some (tr, ⟨node, 0⟩) ∧
      node.stored = List.replicate n 7 := by
  obtain ⟨node, hs, -, -, hstored⟩ :=
    exists_step_sampleFrame hn (valid_sampleFrame (hn.trans_le (by decide)))
  exact ⟨_, node, (appTaskMachine.exec_cons_eq_some).mpr
    ⟨_, _, _, appTask_step_frame hs, appTaskMachine.exec_nil _, rfl⟩, hstored⟩

/-- After a frame of three bytes. -/
theorem receivesInside_iff_storedFits_one_frame :
    ∃ tr app, appTaskMachine.exec ⟨.collector sampleCollector, 0⟩
        [.collector (.dataInd (some (sampleFrame 3)))] = some (tr, app) ∧
      (ReceivesInside app ↔ StoredFits app) := by
  obtain ⟨tr, node, hx, -⟩ := exec_sampleFrame (show 3 < mtu * 2 by decide)
  exact ⟨tr, _, hx, receivesInside_iff_storedFits List.length_replicate rfl hx⟩

/-- After a frame of 101 bytes the read runs over the end of the array. -/
theorem not_receivesInside_of_101 :
    ∃ tr app, appTaskMachine.exec ⟨.collector sampleCollector, 0⟩
        [.collector (.dataInd (some (sampleFrame 101)))] = some (tr, app) ∧
      ¬ ReceivesInside app := by
  obtain ⟨tr, node, hx, hstored⟩ := exec_sampleFrame (show 101 < mtu * 2 by decide)
  have hlen : node.stored.length = 101 := by rw [hstored, List.length_replicate]
  have hwf := rxWf_of_exec (AppTask.RxWf.init List.length_replicate rfl 0) hx
  refine ⟨tr, _, hx, fun hinside => ?_⟩
  obtain ⟨hn, -, -⟩ := hwf.receivesInside_iff.mp hinside (by rw [hlen]; decide)
  rw [hlen] at hn
  exact absurd hn (by decide)

end SensorCollector
