import SensorCollector.Firmware.Blocks
import SensorCollector.Firmware.Steps
import SensorCollector.Lib.Mailbox
import SensorCollector.Lib.Simulation

set_option relaxedAutoImplicit false
set_option autoImplicit false

/-!
# The inbox of the application

The queue of the application, its semaphore and the place where the application is are a mailbox. So
every run of the firmware is a run of a mailbox, in which `MAC_CbackEvent` is the sender and the
timers post the semaphore for a reason of their own.

At the same time every block of the heap has one owner: the MAC, a message that is in the queue, or
the message that the application has in hand.

## Main definitions

* `SensorCollector.Inbox` — the messages in the queue and in hand, with the addresses they are at.
* `SensorCollector.Firmware.Sound` — the heap and the port are those of an inbox.
* `SensorCollector.mailboxEvent` — the step of the mailbox that a step of the firmware is.

## Main results

* `SensorCollector.Firmware.Sound.step` — one step of the firmware, on the inbox.
* `SensorCollector.sound_of_exec` — the inbox at the end of a run.
* `SensorCollector.mailbox_of_exec` — the run of the mailbox.
-/

namespace SensorCollector

open EventMachine Ownership

/-! ## The inbox -/

/-- The messages that the application has not handled, the state of its semaphore, and the blocks
that nothing points to. -/
structure Inbox where
  queue : List Boxed
  /-- The message that has been taken out of the queue. -/
  hand : Option Boxed
  /-- The semaphore can be taken. -/
  ready : Bool
  forgotten : List Addr

namespace Inbox

/-- The messages, the one in hand first. -/
def messages (b : Inbox) : List Boxed := b.hand.toList ++ b.queue

/-- The blocks that do not belong to the MAC. -/
def kept (b : Inbox) : List Addr := b.messages.flatMap blocks ++ b.forgotten

/-- Where the application is, as the receiver of a mailbox. -/
def phase (b : Inbox) : Pc → Mailbox.Phase MacCbackMsg
  | .join | .send | .receive | .process _ => .away
  | .waiting => .waiting
  | .receiving => .woken
  | .testing _ => .taken (b.hand.map Prod.snd)
  | .signalling _ isEmpty => .tested (b.hand.map Prod.snd) isEmpty
  | .handling _ => .holding (b.hand.map Prod.snd)

/-- The mailbox. -/
def mailbox (b : Inbox) (pc : Pc) : Mailbox.State MacCbackMsg where
  queue := b.queue.map Prod.snd
  sem := b.ready
  phase := b.phase pc

end Inbox

/-- The port and the heap are those of an inbox: the queue and the semaphore of the application, the
message in hand, what the blocks of the messages hold, and who owns the blocks. -/
structure Firmware.Sound (s : Firmware) (b : Inbox) : Prop where
  serves : s.osal.Serves appTaskIdx (b.queue.map Prod.fst) b.ready
  hand : b.hand.map Prod.fst = s.pc.hand
  bodies : ∀ x ∈ b.messages, s.osal.heap.body x.1 = some (.cback x.2)
  owns : Owns s.osal.heap (s.macBlocks ++ b.kept)
  noDest : s.osal.heap.NoDest

/-- The mailbox of the application, in a state with some inbox. -/
def Firmware.Sees (s : Firmware) (m : Mailbox.State MacCbackMsg) : Prop :=
  ∃ b, s.Sound b ∧ b.mailbox s.pc = m

/-- The step of the mailbox that a step of the firmware is, if any. -/
def mailboxEvent (s : Firmware) : FirmwareStep → Option (Mailbox.Event MacCbackMsg)
  | .test => if s.app.node.revents = 0 then some .wait else none
  | .pend => some .wake
  | .take => some .take
  | .look => some .test
  | .signal => some .signal
  | .handle _ _ => some .release
  | .scanTimeout | .pollTimeout => some .post
  | .cback _ msg block retry => (msg.posted block retry).map .send
  | _ => none

/-- What a step of the firmware does to its inbox. -/
structure Firmware.Moved (s : Firmware) (b : Inbox) (step : FirmwareStep)
    (out : List FirmwareCall) (s' : Firmware) (b' : Inbox) : Prop where
  sound : s'.Sound b'
  forgotten : b'.forgotten = b.forgotten ++ lost s step
  mailbox :
    match mailboxEvent s step with
    | none => b'.mailbox s'.pc = b.mailbox s.pc ∧ out.filterMap FirmwareCall.incoming? = []
    | some e => ∃ o, Mailbox.machine.step (b.mailbox s.pc) e = some (b'.mailbox s'.pc, o) ∧
      out.filterMap FirmwareCall.incoming? = o.toList

namespace Firmware.Sound

variable {s s' : Firmware} {b : Inbox}

/-! ## Changes of the heap -/

/-- The messages have blocks that do not belong to the MAC. -/
theorem fst_mem_kept {x : Boxed} (hx : x ∈ b.messages) : x.1 ∈ b.kept := by
  refine List.mem_append_left _ (List.mem_flatMap.mpr ⟨x, hx, ?_⟩)
  exact List.mem_cons_self ..

/-- A block of the MAC is no block of a message. -/
theorem ne_of_mem (h : s.Sound b) {a c : Addr} (hmac : c ∈ s.macBlocks) (hkept : a ∈ b.kept) :
    a ≠ c := by
  rintro rfl
  exact (List.nodup_append.mp h.owns.nodup).2.2 a hmac a hkept rfl

/-- The application is at another place, with the same message in hand. -/
theorem congr (h : s.Sound b) (hosal : s'.osal = s.osal) (hmac : s'.macBlocks = s.macBlocks)
    (hhand : s'.pc.hand = s.pc.hand) : s'.Sound b where
  serves := hosal ▸ h.serves
  hand := by rw [hhand, h.hand]
  bodies x hx := by rw [hosal, h.bodies x hx]
  owns := by rw [hosal, hmac]; exact h.owns
  noDest := by rw [hosal]; exact h.noDest

/-- **The MAC uses its own blocks**: the heap changes elsewhere only. Blocks of the MAC may be
forgotten. -/
theorem of_heap (h : s.Sound b) (forgotten' : List Addr) {heap' : Heap MacBody}
    {macBlocks' : List Addr} (hdest : heap'.NoDest) (hsame : ∀ a ∈ b.kept, heap' a = s.osal.heap a)
    (howns : Owns heap' (macBlocks' ++ ({ b with forgotten := forgotten' } : Inbox).kept)) :
    ({ s with osal := { s.osal with heap := heap' }, macBlocks := macBlocks' } : Firmware).Sound
      { b with forgotten := forgotten' } where
  serves := by
    refine h.serves.congr_heap fun a ha => hsame a ?_
    obtain ⟨x, hx, rfl⟩ := List.mem_map.mp ha
    exact fst_mem_kept (List.mem_append_right _ hx)
  hand := h.hand
  bodies x hx := by
    rw [← h.bodies x hx, Heap.body, Heap.body]
    exact congrArg _ (hsame x.1 (fst_mem_kept hx))
  owns := howns
  noDest := hdest

/-- **The port changes headers only**, and the messages are the same; their blocks are those of the
new inbox. -/
theorem of_port (h : s.Sound b) (changed : List Addr) {osal' : OsalPort MacBody} {b' : Inbox}
    {pc' : Pc}
    (hserves : osal'.Serves appTaskIdx (b'.queue.map Prod.fst) b'.ready)
    (hhand : b'.hand.map Prod.fst = pc'.hand) (hmsgs : b'.messages = b.messages)
    (hforgotten : b'.forgotten = b.forgotten)
    (hreq : s.osal.heap.Requeued osal'.heap changed) :
    ({ s with osal := osal', pc := pc' } : Firmware).Sound b' where
  serves := hserves
  hand := hhand
  bodies x hx := by
    rw [Heap.body_of_content hreq.content]
    exact h.bodies x (hmsgs ▸ hx)
  owns := by
    have howns : Owns osal'.heap (s.macBlocks ++ b.kept) :=
      h.owns.congr (Heap.isSome_of_content hreq.content)
    have hkept : b'.kept = b.kept := by rw [Inbox.kept, hmsgs, hforgotten, Inbox.kept]
    rw [hkept]
    exact howns
  noDest := hreq.noDest h.noDest

/-- Without a message in hand at its place, the application has none in its inbox. -/
theorem hand_eq_none (h : s.Sound b) (hpc : s.pc.hand = none) : b.hand = none := by
  rw [← Option.map_eq_none_iff, h.hand, hpc]

/-! ## The steps of the application -/

/-- What the application does outside of `ApiMac_processIncoming` is no message. -/
theorem filterMap_app {α : Type} (f : α → AppTaskCall) (calls : List α) :
    (calls.map fun call => FirmwareCall.app (f call)).filterMap FirmwareCall.incoming? = [] := by
  simp [List.filterMap_eq_nil_iff, FirmwareCall.incoming?]

/-- A part of the loop or of `process`. -/
theorem moved_away (h : s.Sound b) {step : FirmwareStep} {out : List FirmwareCall}
    (hosal : s'.osal = s.osal) (hmac : s'.macBlocks = s.macBlocks) (hlost : lost s step = [])
    (hevent : mailboxEvent s step = none) (haway : b.phase s.pc = .away)
    (haway' : b.phase s'.pc = .away) (hhand : s'.pc.hand = s.pc.hand)
    (hout : out.filterMap FirmwareCall.incoming? = []) : s.Moved b step out s' b where
  sound := h.congr hosal hmac hhand
  forgotten := by rw [hlost, List.append_nil]
  mailbox := by
    rw [hevent]
    exact ⟨by rw [Inbox.mailbox, Inbox.mailbox, haway, haway'], hout⟩

/-- The place after `process` is the start of a loop. -/
theorem next_cases (s : Firmware) : s.next = .join ∨ s.next = .send := by
  rw [Firmware.next]
  split_ifs
  · exact Or.inl rfl
  · exact Or.inr rfl

/-- The application is away after `process`. -/
theorem phase_next (s : Firmware) (b : Inbox) : b.phase s.next = .away := by
  rcases next_cases s with hnext | hnext <;> rw [hnext] <;> rfl

/-- The application has nothing in hand after `process`. -/
theorem hand_next (s : Firmware) : s.next.hand = none := by
  rcases next_cases s with hnext | hnext <;> rw [hnext] <;> rfl

/-- `Semaphore_pend`. -/
theorem moved_pend (h : s.Sound b) {osal : OsalPort MacBody} (hpc : s.pc = .waiting)
    (hpend : s.osal.semPend appTaskIdx = some osal) :
    s.Moved b .pend [] { s with osal := osal, pc := .receiving } { b with ready := false } := by
  have hserves := h.serves
  cases hready : b.ready with
  | false =>
    rw [hready] at hserves
    rw [hserves.pend_eq_none] at hpend
    cases hpend
  | true =>
    rw [hready] at hserves
    obtain ⟨osal', hpend', hserves', hheap⟩ := hserves.pend
    obtain rfl : osal = osal' := Option.some.inj (hpend.symm.trans hpend')
    have hhand := h.hand_eq_none (by rw [hpc]; rfl)
    refine ⟨h.of_port [] hserves' ?_ rfl rfl (hheap ▸ .rfl), ?_, none, ?_, rfl⟩
    · exact (congrArg (Option.map Prod.fst) hhand)
    · exact (List.append_nil _).symm
    · simp only [Inbox.mailbox, hpc, Inbox.phase, hready]
      rfl

/-- The first part of `OsalPort_msgReceive`. -/
theorem moved_take (h : s.Sound b) {osal : OsalPort MacBody} {pMsg : Option Addr}
    (hpc : s.pc = .receiving) (htake : s.osal.msgTake appTaskIdx = some (osal, pMsg)) :
    s.Moved b .take [] { s with osal := osal, pc := .testing pMsg }
      { b with queue := b.queue.tail, hand := b.queue.head? } := by
  obtain ⟨osal', htake', hserves, hreq⟩ := h.serves.take
  obtain ⟨rfl, rfl⟩ := Prod.mk.inj (Option.some.inj (htake.symm.trans htake'))
  have hhand := h.hand_eq_none (by rw [hpc]; rfl)
  have hmsgs : b.queue.head?.toList ++ b.queue.tail = b.hand.toList ++ b.queue := by
    rw [hhand]
    cases b.queue <;> rfl
  refine ⟨h.of_port _ ?_ ?_ hmsgs rfl hreq, (List.append_nil _).symm, none, ?_, rfl⟩
  · rw [← List.map_tail] at hserves
    exact hserves
  · exact (List.head?_map ..).symm
  · simp only [Inbox.mailbox, hpc, Inbox.phase, Mailbox.machine, List.map_tail, List.head?_map]

/-- The second part of `OsalPort_msgReceive`. -/
theorem moved_look (h : s.Sound b) {pMsg : Option Addr} {isEmpty : Bool}
    (hpc : s.pc = .testing pMsg) (hlook : s.osal.msgQEmpty appTaskIdx = some isEmpty) :
    s.Moved b .look [] { s with pc := .signalling pMsg isEmpty } b := by
  have hempty : isEmpty = b.queue.isEmpty := by
    rw [h.serves.look] at hlook
    rw [← Option.some.inj hlook]
    cases b.queue <;> rfl
  refine ⟨h.congr rfl rfl (by rw [hpc]; rfl), (List.append_nil _).symm, none, ?_, rfl⟩
  simp only [Inbox.mailbox, hpc, Inbox.phase, Mailbox.machine, List.isEmpty_map, hempty]

/-- The third part of `OsalPort_msgReceive`. -/
theorem moved_signal (h : s.Sound b) {pMsg : Option Addr} {isEmpty : Bool}
    {osal : OsalPort MacBody} (hpc : s.pc = .signalling pMsg isEmpty)
    (hsignal : s.osal.msgSignal appTaskHndl appTaskIdx isEmpty = some osal) :
    s.Moved b .signal [] { s with osal := osal, pc := .handling pMsg }
      { b with ready := b.ready || !isEmpty } := by
  obtain ⟨osal', hsignal', hserves, hheap⟩ := h.serves.signal appTaskHndl isEmpty
  obtain rfl := Option.some.inj (hsignal.symm.trans hsignal')
  have hhand := h.hand
  rw [hpc] at hhand
  refine ⟨h.of_port [] hserves hhand rfl rfl (hheap ▸ .rfl),
    (List.append_nil _).symm, none, ?_, rfl⟩
  simp only [Inbox.mailbox, hpc, Inbox.phase, Mailbox.machine]

/-- The end of `ApiMac_processIncoming`, without a message. -/
theorem moved_nothing (h : s.Sound b) (device : AssociationDevice) (status : ApiMacAssocStatus)
    (hpc : s.pc = .handling none) :
    s.Moved b (.handle device status) [] { s with pc := s.next } b := by
  have hhand : b.hand = none := h.hand_eq_none (by rw [hpc]; rfl)
  refine ⟨h.congr rfl rfl ?_, ?_, none, ?_, rfl⟩
  · rw [hpc]
    exact hand_next s
  · simp [lost, hpc, Pc.hand]
  · have haway := phase_next s b
    simp only [Inbox.mailbox, hpc, haway, Mailbox.machine]
    simp only [Inbox.phase, hhand, Option.map_none]

/-- **The end of `ApiMac_processIncoming`**, with a message: it is in the block in hand, and this
block and what the message points to can be freed. What the message points to is forgotten if it has
not been handled. -/
theorem moved_handle (h : s.Sound b) (device : AssociationDevice) (status : ApiMacAssocStatus)
    {pMsg : Addr} (hpc : s.pc = .handling (some pMsg)) :
    ∃ msg heap₁ heap st, s.osal.heap.body pMsg = some (.cback msg) ∧
      freeAttached s.osal.heap msg = some heap₁ ∧
      osalPortMsgDeallocate heap₁ (some pMsg) = some (heap, st) ∧
      ∀ (node : Node) (calls : List MacCall), s.Moved b (.handle device status)
        (.incoming msg :: calls.map fun call => .app (.mac call))
        { s with
          osal := { s.osal with heap := heap }
          app := { s.app with node := node }
          pc := s.next }
        { b with
          hand := none
          forgotten := b.forgotten ++ lost s (.handle device status) } := by
  -- the message in hand is the one at this address
  obtain ⟨x, hx, rfl⟩ : ∃ x, b.hand = some x ∧ x.1 = pMsg := by
    have hhand := h.hand
    rw [hpc] at hhand
    exact Option.map_eq_some_iff.mp hhand
  have hbody : s.osal.heap.body x.1 = some (.cback x.2) :=
    h.bodies x (by simp [Inbox.messages, hx])
  have hlost : lost s (.handle device status) =
      if x.2.status = macBadState then x.2.event.attached else [] := by
    obtain ⟨block, hblock, hmsg⟩ := Option.map_eq_some_iff.mp hbody
    obtain ⟨hdr, body⟩ := block
    obtain rfl : body = _ := hmsg
    simp [lost, hpc, Pc.hand, hblock]
  -- what is left when the message and what it points to are taken away
  let rest : List Addr := s.macBlocks ++ (b.queue.flatMap blocks ++ b.forgotten)
  have hkept : (s.macBlocks ++ b.kept).Perm (x.2.event.attached ++ (x.1 :: rest)) := by
    rw [List.perm_iff_count]
    intro a
    simp only [Inbox.kept, Inbox.messages, hx, Option.toList_some, List.singleton_append,
      List.flatMap_cons, blocks, rest, List.count_append, List.count_cons]
    omega
  obtain ⟨heap₁, hattached, hdest₁, hsame₁, howns₁⟩ :=
    freeAttached_spec h.noDest (h.owns.perm hkept)
  have howns : Owns heap₁ (x.1 :: (lost s (.handle device status) ++ rest)) := by
    rw [hlost]
    exact howns₁.perm List.perm_middle
  have hdealloc := msgDeallocate_spec hdest₁ (howns.exists_of_mem (List.mem_cons_self ..))
  have hnot : x.1 ∉ rest := by
    intro hmem
    exact (List.nodup_cons.mp howns.nodup).1 (List.mem_append_right _ hmem)
  have hsame : ∀ a ∈ rest, Function.update heap₁ x.1 none a = s.osal.heap a := by
    intro a ha
    have hne : a ≠ x.1 := by
      rintro rfl
      exact hnot ha
    rw [Function.update_of_ne hne]
    exact hsame₁ a (List.mem_cons_of_mem _ ha)
  have hqueue : ∀ y ∈ b.queue, y.1 ∈ rest := fun y hy =>
    List.mem_append_right _ (List.mem_append_left _
      (List.mem_flatMap.mpr ⟨y, hy, List.mem_cons_self ..⟩))
  refine ⟨x.2, heap₁, _, _, hbody, hattached, hdealloc, fun node calls =>
    ⟨⟨?_, ?_, ?_, ?_, hdest₁.erase x.1⟩, rfl, some x.2, ?_, ?_⟩⟩
  · refine h.serves.congr_heap fun a ha => ?_
    obtain ⟨y, hy, rfl⟩ := List.mem_map.mp ha
    exact hsame y.1 (hqueue y hy)
  · exact (hand_next s).symm
  · intro y hy
    have hy' : y ∈ b.queue := hy
    rw [← h.bodies y (List.mem_append_right _ hy'), Heap.body, Heap.body]
    exact congrArg _ (hsame y.1 (hqueue y hy'))
  · refine howns.free.perm ?_
    rw [List.perm_iff_count]
    intro a
    simp only [Inbox.kept, Inbox.messages, Option.toList_none, List.nil_append, rest,
      List.count_append]
    omega
  · have haway := phase_next s { b with
      hand := none, forgotten := b.forgotten ++ lost s (.handle device status) }
    simp only [Inbox.mailbox, hpc, haway, Mailbox.machine]
    simp only [Inbox.phase, hx, Option.map_some]
  · have hcalls := filterMap_app AppTaskCall.mac calls
    exact congrArg (x.2 :: ·) hcalls

/-! ## The steps of the timers and of the MAC -/

/-- A timer expires. -/
theorem moved_timeout (h : s.Sound b) {step : FirmwareStep} {node : Node}
    {osal : OsalPort MacBody} (htimer : step = .scanTimeout ∨ step = .pollTimeout)
    (hpost : s.osal.semPost appTaskIdx = some osal) :
    s.Moved b step [] { s with app := { s.app with node := node }, osal := osal }
      { b with ready := true } := by
  obtain ⟨osal', hpost', hserves, hheap⟩ := h.serves.post
  obtain rfl := Option.some.inj (hpost.symm.trans hpost')
  have hsound : ({ s with osal := osal, pc := s.pc } : Firmware).Sound { b with ready := true } :=
    h.of_port [] hserves h.hand rfl rfl (hheap ▸ .rfl)
  have hphase : ({ b with ready := true } : Inbox).phase s.pc = b.phase s.pc := by
    cases s.pc <;> rfl
  have hstep : Mailbox.machine.step (b.mailbox s.pc) .post =
      some (({ b with ready := true } : Inbox).mailbox s.pc, none) := by
    simp only [Inbox.mailbox, hphase]
    rfl
  refine ⟨⟨hsound.serves, hsound.hand, hsound.bodies, hsound.owns, hsound.noDest⟩, ?_, ?_⟩
  · rcases htimer with rfl | rfl <;> exact (List.append_nil _).symm
  · rcases htimer with rfl | rfl <;> exact ⟨none, hstep, rfl⟩

/-- **The MAC calls `MAC_CbackEvent`**, which is defined unless a beacon that is too long gets a
block. -/
theorem moved_cback (h : s.Sound b) {pData : Addr} {msg : MacCbackMsg}
    {block retry : Option Addr} (hcan : CanCback s pData msg block retry)
    (hfits : msg.event.TooLong → block = none) :
    ∃ osal b', macCbackEvent s.osal (OsalPort.taskIdOf appTaskIdx) pData msg block retry =
        some osal ∧
      s.Moved b (.cback pData msg block retry) []
        { s with osal := osal, macBlocks := s.macBlocks.diff (handedOver pData msg.event) } b' := by
  obtain ⟨hover, hbody, hblock, hretry⟩ := hcan
  obtain ⟨heap', pMsg, hmake, hmade⟩ :=
    cbackMessage_spec h.noDest h.owns hover hbody hblock hretry hfits
  have hmessage := hmade.message
  simp only [macCbackEvent, hmake, Option.bind_eq_bind, Option.bind_some]
  cases hposted : msg.posted block retry with
  | none =>
    rw [hposted] at hmessage
    obtain ⟨rfl, howns⟩ := hmessage
    have hlost : lost s (.cback pData msg block retry) = msg.event.results := by
      simp only [lost, hposted]
    rw [← hlost] at howns
    refine ⟨_, { b with forgotten := b.forgotten ++ lost s (.cback pData msg block retry) },
      rfl, h.of_heap _ hmade.noDest hmade.same (howns.perm ?_), rfl, ?_⟩
    · rw [List.perm_iff_count]
      intro a
      simp only [Inbox.kept, Inbox.messages, List.count_append]
      omega
    · simp only [mailboxEvent, hposted, Option.map_none]
      refine ⟨?_, rfl⟩
      simp only [Inbox.mailbox]
      cases s.pc <;> rfl
  | some m =>
    rw [hposted] at hmessage
    obtain ⟨p, rfl, hbody', howns⟩ := hmessage
    have hmem : p ∈ s.macBlocks.diff (handedOver pData msg.event) ++ (blocks (p, m) ++ b.kept) :=
      List.mem_append_right _ (List.mem_append_left _ (List.mem_cons_self ..))
    have hnew : p ∉ b.queue.map Prod.fst := by
      intro hin
      obtain ⟨x, hx, rfl⟩ := List.mem_map.mp hin
      have hnodup := (howns.perm List.perm_append_comm).nodup
      rw [List.append_assoc, List.nodup_append] at hnodup
      exact hnodup.2.2 x.1 (List.mem_cons_self ..) x.1
        (List.mem_append_left _ (fst_mem_kept (List.mem_append_right _ hx))) rfl
    have hserves : ({ s.osal with heap := heap' } : OsalPort MacBody).Serves appTaskIdx
        (b.queue.map Prod.fst) b.ready := by
      refine h.serves.congr_heap fun a ha => ?_
      obtain ⟨x, hx, rfl⟩ := List.mem_map.mp ha
      exact hmade.same x.1 (fst_mem_kept (List.mem_append_right _ hx))
    obtain ⟨osal', hsend, hserves', hreq⟩ :=
      hserves.send (Heap.next_isSome_iff.mpr (howns.exists_of_mem hmem)) hnew
    have hcback : (({ s.osal with heap := heap' } : OsalPort MacBody).msgSend
        (OsalPort.taskIdOf appTaskIdx) (some p)).map Prod.fst = some osal' := by
      rw [hsend]
      rfl
    refine ⟨osal', { b with queue := b.queue ++ [(p, m)], ready := true }, hcback,
      ⟨?_, h.hand, ?_, ?_, hreq.noDest hmade.noDest⟩, ?_, ?_⟩
    · simpa using hserves'
    · intro x hx
      rw [Heap.body_of_content hreq.content]
      simp only [Inbox.messages, List.mem_append, List.mem_singleton, ← or_assoc] at hx
      rcases hx with hx | rfl
      · have hx' : x ∈ b.messages := List.mem_append.mpr hx
        rw [← h.bodies x hx', Heap.body, Heap.body]
        exact congrArg _ (hmade.same x.1 (fst_mem_kept hx'))
      · exact hbody'
    · refine (howns.congr (Heap.isSome_of_content hreq.content)).perm ?_
      rw [List.perm_iff_count]
      intro a
      simp only [Inbox.kept, Inbox.messages, List.flatMap_append, List.flatMap_cons,
        List.flatMap_nil, List.append_nil, List.count_append]
      omega
    · simp [lost, hposted]
    · simp only [mailboxEvent, hposted, Option.map_some]
      refine ⟨none, ?_, rfl⟩
      simp only [Inbox.mailbox, List.map_append, List.map_singleton]
      cases s.pc <;> rfl

/-! ## Every step -/

/-- **One step** of the firmware moves its inbox on. -/
theorem step (h : s.Sound b) {step : FirmwareStep} {out : List FirmwareCall}
    (hs : firmwareMachine.step s step = some (s', out)) : ∃ b', s.Moved b step out s' b' := by
  cases firmwareStepsTo_of_step hs with
  | joined ticks hpc hconn =>
    exact ⟨b, h.moved_away rfl rfl rfl rfl (by rw [hpc]; rfl) rfl (by rw [hpc]; rfl) rfl⟩
  | joining ticks hpc hconn =>
    exact ⟨b, h.moved_away rfl rfl rfl rfl (by rw [hpc]; rfl) rfl (by rw [hpc]; rfl) rfl⟩
  | send hpc hsend =>
    exact ⟨b, h.moved_away rfl rfl rfl rfl (by rw [hpc]; rfl) rfl (by rw [hpc]; rfl)
      (filterMap_app id _)⟩
  | receive hpc hreceive =>
    exact ⟨b, h.moved_away rfl rfl rfl rfl (by rw [hpc]; rfl) rfl (by rw [hpc]; rfl)
      (filterMap_app id _)⟩
  | branch hpc hrun =>
    exact ⟨b, h.moved_away rfl rfl rfl rfl (by rw [hpc]; rfl) rfl (by rw [hpc]; rfl)
      (filterMap_app _ _)⟩
  | again hpc hrevents =>
    exact ⟨b, h.moved_away rfl rfl rfl (if_neg hrevents) (by rw [hpc]; rfl) (phase_next s b)
      (by rw [hpc]; exact hand_next s) rfl⟩
  | wait hpc hrevents =>
    refine ⟨b, h.congr rfl rfl (by rw [hpc]; rfl), (List.append_nil _).symm, ?_⟩
    rw [mailboxEvent, if_pos hrevents]
    refine ⟨none, ?_, rfl⟩
    simp only [Inbox.mailbox, hpc]
    rfl
  | pend hpc hpend => exact ⟨_, h.moved_pend hpc hpend⟩
  | take hpc htake => exact ⟨_, h.moved_take hpc htake⟩
  | look hpc hlook => exact ⟨_, h.moved_look hpc hlook⟩
  | signal hpc hsignal => exact ⟨_, h.moved_signal hpc hsignal⟩
  | nothing device status hpc => exact ⟨_, h.moved_nothing device status hpc⟩
  | @handle device status pMsg block msg node calls heap₁ heap st hpc hblock hmsg hnode hattached
      hfree =>
    obtain ⟨msg', heap₁', heap', st', hbody, hattached', hfree', hmoved⟩ :=
      h.moved_handle device status hpc
    have hcback : s.osal.heap.body pMsg = some (.cback msg) := by
      rw [Heap.body, hblock, Option.map_some, hmsg]
    obtain rfl := MacBody.cback.inj (Option.some.inj (hbody.symm.trans hcback))
    obtain rfl := Option.some.inj (hattached'.symm.trans hattached)
    obtain ⟨rfl, rfl⟩ := Prod.mk.inj (Option.some.inj (hfree'.symm.trans hfree))
    exact ⟨_, hmoved node calls⟩
  | timeout htimer hnode hstep hpost =>
    exact ⟨_, h.moved_timeout (htimer.imp And.left And.left) hpost⟩
  | @cback pData msg block retry osal hcan hcback =>
    have hfits : msg.event.TooLong → block = none := by
      intro htoo
      by_contra hblock
      rw [macCbackEvent_eq_none _ _ _ htoo (Option.isSome_iff_ne_none.mpr hblock)] at hcback
      cases hcback
    obtain ⟨osal', b', hcback', hmoved⟩ := h.moved_cback hcan hfits
    obtain rfl := Option.some.inj (hcback'.symm.trans hcback)
    exact ⟨b', hmoved⟩
  | @macAlloc buf block hfree hdest =>
    have howns : Owns (Function.update s.osal.heap buf (some block))
        (buf :: s.macBlocks ++ b.kept) := h.owns.alloc hfree block
    refine ⟨b, h.of_heap b.forgotten (h.noDest.update hdest) (fun a ha => ?_) howns,
      (List.append_nil _).symm, rfl, rfl⟩
    refine Function.update_of_ne ?_ _ _
    rintro rfl
    exact h.owns.not_mem hfree (List.mem_append_right _ ha)
  | @macWrite buf block hmem hdest =>
    have howns := h.owns.write (List.mem_append_left _ hmem) block
    refine ⟨b, h.of_heap b.forgotten (h.noDest.update hdest) (fun a ha => ?_) howns,
      (List.append_nil _).symm, rfl, rfl⟩
    exact Function.update_of_ne (h.ne_of_mem hmem ha) _ _
  | @macFree buf hmem =>
    have howns := (h.owns.perm ((List.perm_cons_erase hmem).append_right _)).free
    refine ⟨b, h.of_heap b.forgotten (h.noDest.erase buf) (fun a ha => ?_) howns,
      (List.append_nil _).symm, rfl, rfl⟩
    exact Function.update_of_ne (h.ne_of_mem hmem ha) _ _

end Firmware.Sound

/-! ## Runs -/

/-- **The inbox at the end of a run.** What has been forgotten is what the steps have lost. -/
theorem sound_of_exec {s₀ s : Firmware} {b₀ : Inbox} {steps : List FirmwareStep}
    {tr : List FirmwareTransition} (h0 : s₀.Sound b₀)
    (hx : firmwareMachine.exec s₀ steps = some (tr, s)) :
    ∃ b, s.Sound b ∧
      b.forgotten = b₀.forgotten ++ tr.flatMap fun u => lost u.pre u.event := by
  refine firmwareMachine.exec_induction (P := fun _ tr s => ∃ b, s.Sound b ∧
    b.forgotten = b₀.forgotten ++ tr.flatMap fun u => lost u.pre u.event) ⟨b₀, h0, by simp⟩ ?_ hx
  intro steps tr s step s' out _ ih hs
  obtain ⟨b, hsound, hforgotten⟩ := ih
  obtain ⟨b', hmoved⟩ := hsound.step hs
  refine ⟨b', hmoved.sound, ?_⟩
  rw [hmoved.forgotten, hforgotten]
  simp

/-- **The run of the mailbox.** Every run of the firmware is one of its mailbox: the same messages
are handled, and the steps are those that the mailbox sees. -/
theorem mailbox_of_exec {s₀ s : Firmware} {b₀ : Inbox} {steps : List FirmwareStep}
    {tr : List FirmwareTransition} (h0 : s₀.Sound b₀)
    (hx : firmwareMachine.exec s₀ steps = some (tr, s)) :
    ∃ b trM, s.Sound b ∧
      Mailbox.machine.exec (b₀.mailbox s₀.pc)
        (tr.filterMap fun u => mailboxEvent u.pre u.event) = some (trM, b.mailbox s.pc) ∧
      trM.filterMap Transition.out =
        tr.flatMap fun u => u.out.filterMap FirmwareCall.incoming? := by
  have hsim : ∃ trM t, Mailbox.machine.exec (b₀.mailbox s₀.pc)
        (tr.filterMap fun u => mailboxEvent u.pre u.event) = some (trM, t) ∧ s.Sees t ∧
      (trM.flatMap fun u => u.out.toList) =
        tr.flatMap fun u => u.out.filterMap FirmwareCall.incoming? := by
    refine exec_of_abstracts (R := Firmware.Sees) (f := mailboxEvent) ?_ ⟨b₀, h0, rfl⟩ hx
    rintro s step s' out _ ⟨b, hsound, rfl⟩ hs
    obtain ⟨b', hmoved⟩ := hsound.step hs
    have hmailbox := hmoved.mailbox
    cases hevent : mailboxEvent s step with
    | none =>
      rw [hevent] at hmailbox
      exact ⟨⟨b', hmoved.sound, hmailbox.1⟩, hmailbox.2⟩
    | some e =>
      rw [hevent] at hmailbox
      obtain ⟨o, hmstep, hout⟩ := hmailbox
      exact ⟨_, o, hmstep, ⟨b', hmoved.sound, rfl⟩, hout⟩
  obtain ⟨trM, t, hxM, ⟨b, hsound, rfl⟩, hout⟩ := hsim
  refine ⟨b, trM, hsound, hxM, ?_⟩
  rw [← hout, List.filterMap_eq_flatMap_toList]

end SensorCollector
