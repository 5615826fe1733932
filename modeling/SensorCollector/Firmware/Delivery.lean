import SensorCollector.Firmware.Inbox

set_option relaxedAutoImplicit false
set_option autoImplicit false

/-!
# From the MAC to the callbacks

What holds of the messages of the MAC in every run of the firmware, whatever the interleaving of the
application, the timers and the MAC: they are handled once each and in order, the application does
not sleep on one, every block of the heap has one owner, and nothing is read or freed that is not
allocated.

## Main definitions

* `SensorCollector.Firmware.boot` — the firmware before the first round of a loop.
* `SensorCollector.handled` — the messages that a run has handled.

## Main results

* `SensorCollector.messages_handled_once` — every message is handled once, in order.
* `SensorCollector.not_asleep_on_work` — the application does not sleep on a message or an event.
* `SensorCollector.handled_of_rounds` — how long a message waits.
* `SensorCollector.countP_isPend_le` — how often the application wakes up.
* `SensorCollector.blocks_owned_once` — the owners of the blocks of the heap.
* `SensorCollector.port_calls_defined` — how the port is used, and when that is undefined.
-/

namespace SensorCollector

open EventMachine Ownership

/-! ## The start of a run -/

/-- The port after the two tasks have been registered: that of the MAC has a counting semaphore and
that of the application a binary one. -/
def bootPort : OsalPort MacBody :=
  ((OsalPort.registerTask ⟨fun _ => none, [], 0⟩ 0 (some ⟨false, 0⟩) 0).1.registerTask appTaskHndl
    (some ⟨true, 0⟩) 0).1

/-- The firmware before the first round of its first loop, which for a device is the one that waits
for the connection. -/
def Firmware.boot (app : AppTask) : Firmware where
  osal := bootPort
  app := app
  pc := if app.node.isConnected.isSome then .join else .send
  joining := app.node.isConnected.isSome
  macBlocks := []

/-- The inbox is empty at the start. -/
def bootInbox : Inbox := ⟨[], none, false, []⟩

/-- The two tasks have been registered. -/
theorem serves_bootPort : bootPort.Serves appTaskIdx [] false := by
  have hempty : (⟨fun _ => none, [], 0⟩ : OsalPort MacBody).Registered :=
    ⟨rfl, Nat.zero_le _, fun i task hget => by simp at hget⟩
  have hmac := (hempty.registerTask (by decide) 0 (some ⟨false, 0⟩) 0).2
  have happ := hmac.registerTask (by decide) appTaskHndl (some ⟨true, 0⟩) 0
  exact ⟨happ.2, _, rfl, rfl, rfl⟩

/-- The application is at the start of a loop. -/
theorem phase_boot (app : AppTask) :
    bootInbox.phase (Firmware.boot app).pc = .away ∧ (Firmware.boot app).pc.hand = none := by
  rw [Firmware.boot]
  dsimp only
  split_ifs <;> exact ⟨rfl, rfl⟩

/-- The inbox at the start. -/
theorem sound_boot (app : AppTask) : (Firmware.boot app).Sound bootInbox where
  serves := serves_bootPort
  hand := (phase_boot app).2.symm
  bodies x hx := by cases hx
  owns := ⟨List.nodup_nil, fun a => by simp [Firmware.boot, bootPort, bootInbox, Inbox.kept,
    Inbox.messages, OsalPort.registerTask]⟩
  noDest a block hblock := by
    simp [Firmware.boot, bootPort, OsalPort.registerTask] at hblock

/-- The mailbox at the start. -/
theorem mailbox_boot (app : AppTask) :
    bootInbox.mailbox (Firmware.boot app).pc = ⟨[], false, .away⟩ := by
  rw [Inbox.mailbox, (phase_boot app).1]
  rfl

/-- The messages that a run has handled. -/
def handled (tr : List FirmwareTransition) : List MacCbackMsg :=
  tr.flatMap fun u => u.out.filterMap FirmwareCall.incoming?

/-! ## A run -/

/-- A device that has just been constructed, at its start. -/
def sampleBoot : Firmware := .boot ⟨.device sampleDevice, 0⟩

/-- The device has nothing to do and goes to sleep. -/
def sampleIdle : List FirmwareStep := [.join 0, .branch, .branch, .branch, .branch, .test]

/-- The MAC confirms a poll. -/
def samplePost : FirmwareStep := .cback 0 ⟨0, .pollCnf⟩ (some 5) none

/-- The device wakes up and goes through `ApiMac_processIncoming`. -/
def sampleRound : List FirmwareStep := [.pend, .take, .look, .signal, .handle .zero .success]

/-- The device handles the confirm, goes to sleep again, and its scan timer wakes it up. -/
def sampleRounds : List FirmwareStep := sampleRound ++ sampleIdle ++ .scanTimeout :: sampleRound

/-- A run that ends where it is said. -/
theorem exists_exec_of_pc {s₀ : Firmware} {steps : List FirmwareStep} {pc : Pc}
    (hpc : (firmwareMachine.exec s₀ steps).map (fun r => r.2.pc) = some pc) :
    ∃ tr s, firmwareMachine.exec s₀ steps = some (tr, s) ∧ s.pc = pc := by
  obtain ⟨⟨tr, s⟩, hx, hs⟩ := Option.map_eq_some_iff.mp hpc
  exact ⟨tr, s, hx, hs⟩

/-! ## The steps of the mailbox -/

/-- The step is a round of `ApiMac_processIncoming` that ends. -/
def FirmwareStep.isHandle : FirmwareStep → Bool
  | .handle _ _ => true
  | _ => false

/-- The step is a return from `Semaphore_pend`. -/
def FirmwareStep.isPend : FirmwareStep → Bool
  | .pend => true
  | _ => false

/-- The step is a timer that expires. -/
def FirmwareStep.isTimeout : FirmwareStep → Bool
  | .scanTimeout | .pollTimeout => true
  | _ => false

/-- What the mailbox sees of a run: the messages that are sent. -/
theorem sent_mailboxEvents (tr : List FirmwareTransition) :
    (tr.filterMap fun u => mailboxEvent u.pre u.event).filterMap Mailbox.Event.sent =
      (tr.map Transition.event).filterMap FirmwareStep.posted := by
  rw [List.filterMap_filterMap, List.filterMap_map]
  congr 1
  funext u
  cases hevent : u.event with
  | cback pData msg block retry =>
    simp only [hevent, mailboxEvent, FirmwareStep.posted, Function.comp_apply, Option.bind_map]
    cases msg.posted block retry <;> rfl
  | test =>
    simp only [hevent, mailboxEvent, FirmwareStep.posted, Function.comp_apply]
    split_ifs <;> rfl
  | _ => simp [hevent, mailboxEvent, FirmwareStep.posted, Mailbox.Event.sent]

/-- What the mailbox sees of a run: how often a property of its steps holds. -/
theorem countP_mailboxEvents (p : Mailbox.Event MacCbackMsg → Bool) (q : FirmwareStep → Bool)
    (hpq : ∀ s step, (mailboxEvent s step).any p = q step) (tr : List FirmwareTransition) :
    (tr.filterMap fun u => mailboxEvent u.pre u.event).countP p =
      (tr.map Transition.event).countP q := by
  rw [List.countP_filterMap, List.countP_map]
  congr 1
  funext u
  rw [Function.comp_apply, ← hpq u.pre u.event]
  cases mailboxEvent u.pre u.event <;> rfl

/-- The rounds of the application are those of the receiver. -/
theorem any_isRelease (s : Firmware) (step : FirmwareStep) :
    (mailboxEvent s step).any Mailbox.Event.isRelease = step.isHandle := by
  cases step with
  | test =>
    rw [mailboxEvent]
    split_ifs <;> rfl
  | cback pData msg block retry =>
    rw [mailboxEvent]
    cases msg.posted block retry <;> rfl
  | _ => rfl

/-- The application wakes up where the receiver does. -/
theorem any_isWake (s : Firmware) (step : FirmwareStep) :
    (mailboxEvent s step).any Mailbox.Event.isWake = step.isPend := by
  cases step with
  | test =>
    rw [mailboxEvent]
    split_ifs <;> rfl
  | cback pData msg block retry =>
    rw [mailboxEvent]
    cases msg.posted block retry <;> rfl
  | _ => rfl

/-- The semaphore is posted with a message or by a timer. -/
theorem any_isPost (s : Firmware) (step : FirmwareStep) :
    (mailboxEvent s step).any Mailbox.Event.isPost =
      (step.posted.isSome || step.isTimeout) := by
  cases step with
  | test =>
    rw [mailboxEvent]
    split_ifs <;> rfl
  | cback pData msg block retry =>
    simp only [mailboxEvent, FirmwareStep.posted, FirmwareStep.isTimeout, Bool.or_false]
    cases msg.posted block retry <;> rfl
  | _ => rfl

/-- A step that posts a message is no timer. -/
theorem countP_posts (steps : List FirmwareStep) :
    steps.countP (fun step => step.posted.isSome || step.isTimeout) =
      (steps.filterMap FirmwareStep.posted).length + steps.countP FirmwareStep.isTimeout := by
  induction steps with
  | nil => rfl
  | cons step steps ih =>
    have hstep : (step.posted.isSome || step.isTimeout).toNat =
        step.posted.toList.length + step.isTimeout.toNat := by
      cases step with
      | cback pData msg block retry =>
        simp only [FirmwareStep.posted, FirmwareStep.isTimeout]
        cases msg.posted block retry <;> rfl
      | _ => rfl
    have hposted : ((step :: steps).filterMap FirmwareStep.posted).length =
        step.posted.toList.length + (steps.filterMap FirmwareStep.posted).length := by
      rw [List.filterMap_cons]
      cases step.posted with
      | none => simp
      | some msg => simp [Nat.add_comm]
    have htoNat : ∀ c : Bool, (if c = true then 1 else 0) = c.toNat := by decide
    rw [List.countP_cons, List.countP_cons, ih, hposted, htoNat, htoNat]
    omega

/-! ## Every message once, in order -/

/-- The messages that have not been handled, with the addresses they are at: the one in hand and
those in the queue. -/
def Firmware.Holding (s : Firmware) (boxed : List Boxed) : Prop :=
  ∃ task msgs, s.osal.taskTbl[appTaskIdx]? = some task ∧
    QueueAt s.osal.heap task.qHandle msgs ∧
    boxed.map Prod.fst = s.pc.hand.toList ++ msgs ∧
    ∀ x ∈ boxed, s.osal.heap.body x.1 = some (.cback x.2)

/-- The messages of an inbox are those that have not been handled. -/
theorem Firmware.Sound.holding {s : Firmware} {b : Inbox} (h : s.Sound b) :
    s.Holding b.messages := by
  obtain ⟨task, hget, hq, -⟩ := h.serves.entry
  refine ⟨task, _, hget, hq, ?_, h.bodies⟩
  rw [← h.hand, Inbox.messages, List.map_append]
  cases b.hand <;> rfl

/-- There is only one list of messages that have not been handled. -/
theorem Firmware.Holding.unique {s : Firmware} {boxed boxed' : List Boxed}
    (h : s.Holding boxed) (h' : s.Holding boxed') : boxed = boxed' := by
  obtain ⟨task, msgs, hget, hq, hfst, hbody⟩ := h
  obtain ⟨task', msgs', hget', hq', hfst', hbody'⟩ := h'
  obtain rfl : task = task' := Option.some.inj (hget.symm.trans hget')
  obtain rfl : msgs = msgs' := LinkedList.Chain.unique hq hq'
  have hmap : boxed.map Prod.fst = boxed'.map Prod.fst := hfst.trans hfst'.symm
  have hbox : ∀ l : List Boxed, (∀ x ∈ l, s.osal.heap.body x.1 = some (.cback x.2)) →
      l.map some = (l.map Prod.fst).map (fun a =>
        (messageAt s.osal.heap a).map (a, ·)) := by
    intro l hl
    rw [List.map_map]
    refine List.map_congr_left fun x hx => ?_
    rw [Function.comp_apply, messageAt_eq_some_iff.mpr (hl x hx)]
    rfl
  have hsome : boxed.map some = boxed'.map some := by
    rw [hbox boxed hbody, hbox boxed' hbody', hmap]
  exact List.map_injective_iff.mpr (Option.some_injective Boxed) hsome

/-- The messages of an inbox are those that the receiver of its mailbox has not received. -/
theorem Firmware.Sound.pending_mailbox {s : Firmware} {b : Inbox} (h : s.Sound b) :
    (b.mailbox s.pc).pending = b.messages.map Prod.snd := by
  have hhand : (b.phase s.pc).inHand = (b.hand.map Prod.snd).toList := by
    have hnone := h.hand
    cases hpc : s.pc with
    | testing pMsg | signalling pMsg isEmpty | handling pMsg => rfl
    | _ =>
      rw [hpc] at hnone
      have hempty : b.hand = none := Option.map_eq_none_iff.mp hnone
      rw [hempty]
      rfl
  rw [Mailbox.State.pending, Inbox.messages, List.map_append]
  simp only [Inbox.mailbox, hhand]
  cases b.hand <;> rfl

/-- At the end of a run, the messages that have been sent are those that have been handled and those
of the inbox. -/
theorem posted_of_exec {app : AppTask} {steps : List FirmwareStep}
    {tr : List FirmwareTransition} {s : Firmware}
    (hx : firmwareMachine.exec (.boot app) steps = some (tr, s)) :
    ∃ b, s.Sound b ∧
      steps.filterMap FirmwareStep.posted = handled tr ++ b.messages.map Prod.snd := by
  obtain ⟨b, trM, hsound, hxM, hout⟩ := mailbox_of_exec (sound_boot app) hx
  refine ⟨b, hsound, ?_⟩
  have hfifo := Mailbox.fifo hxM
  rw [mailbox_boot, sent_mailboxEvents, hout, firmwareMachine.map_event_of_exec hx,
    hsound.pending_mailbox] at hfifo
  exact hfifo

/-- **Every message of the MAC is handled once, in order**: at every point of every run, the
messages that `MAC_CbackEvent` has sent are those that have been handled, followed by those that are
in hand or in the queue. -/
theorem messages_handled_once {app : AppTask} {steps : List FirmwareStep}
    {tr : List FirmwareTransition} {s : Firmware}
    (hx : firmwareMachine.exec (.boot app) steps = some (tr, s)) :
    ∃ boxed, s.Holding boxed ∧
      steps.filterMap FirmwareStep.posted = handled tr ++ boxed.map Prod.snd := by
  obtain ⟨b, hsound, hposted⟩ := posted_of_exec hx
  exact ⟨b.messages, hsound.holding, hposted⟩

/-- A message that has been handled. -/
theorem messages_handled_once_pollCnf :
    ∃ tr s boxed, firmwareMachine.exec sampleBoot (sampleIdle ++ samplePost :: sampleRounds) =
        some (tr, s) ∧
      s.Holding boxed ∧ [⟨0, .pollCnf⟩] = handled tr ++ boxed.map Prod.snd := by
  have hpc : (firmwareMachine.exec sampleBoot (sampleIdle ++ samplePost :: sampleRounds)).map
      (fun r => r.2.pc) = some .join := by decide +kernel
  obtain ⟨tr, s, hx, -⟩ := exists_exec_of_pc hpc
  obtain ⟨boxed, hboxed, hmsgs⟩ := messages_handled_once hx
  exact ⟨tr, s, boxed, hx, hboxed, hmsgs⟩

/-! ## No lost wake-up -/

/-- Whether the application sleeps can be seen from its inbox. -/
theorem Firmware.Sound.asleep_iff {s : Firmware} {b : Inbox} (h : s.Sound b) :
    s.Asleep ↔ s.pc = .waiting ∧ b.ready = false := by
  refine and_congr_right fun _ => ?_
  have hserves := h.serves
  cases hready : b.ready with
  | true =>
    rw [hready] at hserves
    obtain ⟨osal', hpend, -, -⟩ := hserves.pend
    simp [hpend]
  | false =>
    rw [hready] at hserves
    simp [hserves.pend_eq_none]

/-- An application that sleeps has no event set. -/
def Firmware.SleepsIdle (s : Firmware) : Prop := s.Asleep → s.app.node.revents = 0

/-- A step that the mailbox does not see, and that leaves the application where it is, does not send
it to sleep. -/
theorem Firmware.Moved.asleep_of_none {s s' : Firmware} {b b' : Inbox} {step : FirmwareStep}
    {out : List FirmwareCall} (h : s.Moved b step out s' b') (hsound : s.Sound b)
    (hevent : mailboxEvent s step = none) (hpc : s'.pc = s.pc) (hasleep : s'.Asleep) :
    s.Asleep := by
  have hmailbox := h.mailbox
  rw [hevent] at hmailbox
  have hready : b'.ready = b.ready := congrArg Mailbox.State.sem hmailbox.1
  rw [h.sound.asleep_iff, hpc, hready] at hasleep
  exact hsound.asleep_iff.mpr hasleep

/-- After a step that posts the semaphore the application does not sleep. -/
theorem Firmware.Moved.not_asleep_of_post {s s' : Firmware} {b b' : Inbox} {step : FirmwareStep}
    {out : List FirmwareCall} (h : s.Moved b step out s' b') {e : Mailbox.Event MacCbackMsg}
    (hevent : mailboxEvent s step = some e) (hpost : e.isPost = true) : ¬ s'.Asleep := by
  have hmailbox := h.mailbox
  rw [hevent] at hmailbox
  obtain ⟨o, hstep, -⟩ := hmailbox
  have hready : true = b'.ready := by
    cases e with
    | send msg => exact congrArg Mailbox.State.sem (Prod.mk.inj (Option.some.inj hstep)).1
    | post => exact congrArg Mailbox.State.sem (Prod.mk.inj (Option.some.inj hstep)).1
    | _ => cases hpost
  rw [h.sound.asleep_iff, ← hready]
  simp

/-- **One step**: the application goes to sleep only after it has found no event set, and a timer
that sets one while it sleeps wakes it up. -/
theorem Firmware.SleepsIdle.step {s s' : Firmware} {b : Inbox} {step : FirmwareStep}
    {out : List FirmwareCall} (h : s.SleepsIdle) (hsound : s.Sound b)
    (hs : firmwareMachine.step s step = some (s', out)) : s'.SleepsIdle := by
  obtain ⟨b', hmoved⟩ := hsound.step hs
  intro hasleep
  have hpc := hasleep.1
  cases firmwareStepsTo_of_step hs with
  | wait _ hrevents => exact hrevents
  | again _ _ | nothing _ _ _ | handle _ _ _ _ _ _ =>
    rcases Firmware.Sound.next_cases s with hnext | hnext <;>
      exact absurd (hnext.symm.trans hpc) (by simp)
  | timeout htimer _ _ _ =>
    rcases htimer with ⟨rfl, -⟩ | ⟨rfl, -⟩ <;>
      exact absurd hasleep (hmoved.not_asleep_of_post rfl rfl)
  | @cback pData msg block retry osal hcan hcback =>
    cases hposted : msg.posted block retry with
    | some m =>
      have hevent : mailboxEvent s (.cback pData msg block retry) = some (.send m) := by
        rw [mailboxEvent, hposted, Option.map_some]
      exact absurd hasleep (hmoved.not_asleep_of_post hevent rfl)
    | none =>
      have hevent : mailboxEvent s (.cback pData msg block retry) = none := by
        rw [mailboxEvent, hposted, Option.map_none]
      exact h (hmoved.asleep_of_none hsound hevent rfl hasleep)
  | macAlloc _ _ | macWrite _ _ | macFree _ =>
    exact h (hmoved.asleep_of_none hsound rfl rfl hasleep)
  | _ => cases hpc

/-- What holds in every run, of the inbox and of the application that sleeps. -/
theorem sleepsIdle_of_exec {app : AppTask} {steps : List FirmwareStep}
    {tr : List FirmwareTransition} {s : Firmware}
    (hx : firmwareMachine.exec (.boot app) steps = some (tr, s)) : s.SleepsIdle := by
  have hboth : (∃ b, s.Sound b) ∧ s.SleepsIdle := by
    refine firmwareMachine.exec_induction (P := fun _ _ s => (∃ b, s.Sound b) ∧ s.SleepsIdle)
      ⟨⟨bootInbox, sound_boot app⟩, fun hasleep => ?_⟩ ?_ hx
    · rw [(sound_boot app).asleep_iff] at hasleep
      have hpc := hasleep.1
      rw [Firmware.boot] at hpc
      dsimp only at hpc
      split_ifs at hpc
    · rintro steps tr s step s' out _ ⟨⟨b, hsound⟩, hidle⟩ hs
      obtain ⟨b', hmoved⟩ := hsound.step hs
      exact ⟨⟨b', hmoved.sound⟩, hidle.step hsound hs⟩
  exact hboth.2

/-- **The application does not sleep on work**: in every run, if it waits and cannot take its
semaphore, its queue is empty and no event is set. -/
theorem not_asleep_on_work {app : AppTask} {steps : List FirmwareStep}
    {tr : List FirmwareTransition} {s : Firmware}
    (hx : firmwareMachine.exec (.boot app) steps = some (tr, s)) (hasleep : s.Asleep) :
    s.Holding [] ∧ s.app.node.revents = 0 := by
  obtain ⟨b, trM, hsound, hxM, -⟩ := mailbox_of_exec (sound_boot app) hx
  refine ⟨?_, sleepsIdle_of_exec hx hasleep⟩
  obtain ⟨hpc, hready⟩ := hsound.asleep_iff.mp hasleep
  have hawake : (b.mailbox s.pc).Awake := by
    refine Mailbox.machine.exec_induction (P := fun _ _ m => m.Awake) ?_
      (fun _ _ _ _ _ _ _ h hs => h.step hs) hxM
    rw [mailbox_boot]
    exact fun hne => absurd rfl hne
  have hqueue : (b.mailbox s.pc).queue = [] := hawake.queue_eq_nil (by
    rw [Inbox.mailbox, hpc]
    rfl) hready
  have hhand : b.hand = none := hsound.hand_eq_none (by rw [hpc]; rfl)
  have hmsgs : b.messages = [] := by
    rw [Inbox.messages, hhand]
    exact List.map_eq_nil_iff.mp hqueue
  exact hmsgs ▸ hsound.holding

/-- A device that has nothing to do. -/
theorem not_asleep_on_work_idle :
    ∃ tr s, firmwareMachine.exec sampleBoot sampleIdle = some (tr, s) ∧ s.Asleep ∧
      s.Holding [] ∧ s.app.node.revents = 0 := by
  obtain ⟨tr, s, hx, hasleep⟩ : ∃ tr s, firmwareMachine.exec sampleBoot sampleIdle =
      some (tr, s) ∧ s.Asleep := ⟨_, _, rfl, rfl, rfl⟩
  exact ⟨tr, s, hx, hasleep, not_asleep_on_work hx hasleep⟩

/-! ## How long a message waits -/

/-- **How long a message waits**: from any point of any run on, after more rounds of
`ApiMac_processIncoming` than there were messages to be handled, all of these have been handled, in
order and before any that was sent later. -/
theorem handled_of_rounds {app : AppTask} {steps steps' : List FirmwareStep}
    {tr tr' : List FirmwareTransition} {s s' : Firmware} {boxed : List Boxed}
    (hx : firmwareMachine.exec (.boot app) steps = some (tr, s))
    (hx' : firmwareMachine.exec s steps' = some (tr', s')) (hboxed : s.Holding boxed)
    (hrounds : boxed.length < steps'.countP FirmwareStep.isHandle) :
    boxed.map Prod.snd <+: handled tr' := by
  obtain ⟨b, hsound, -⟩ := sound_of_exec (sound_boot app) hx
  obtain rfl := hboxed.unique hsound.holding
  obtain ⟨b', trM, -, hxM, hout⟩ := mailbox_of_exec hsound hx'
  have hcount := countP_mailboxEvents Mailbox.Event.isRelease FirmwareStep.isHandle
    any_isRelease tr'
  rw [firmwareMachine.map_event_of_exec hx'] at hcount
  have hreceived := Mailbox.received_of_releases hxM (by
    rw [hsound.pending_mailbox, hcount, List.length_map]
    exact hrounds)
  rw [hsound.pending_mailbox, hout] at hreceived
  exact hreceived

/-- A message that waits for one round. -/
theorem handled_of_rounds_pollCnf :
    ∃ tr s tr' s', firmwareMachine.exec sampleBoot (sampleIdle ++ [samplePost]) = some (tr, s) ∧
      firmwareMachine.exec s sampleRounds = some (tr', s') ∧ [⟨0, .pollCnf⟩] <+: handled tr' := by
  have hpc : (firmwareMachine.exec sampleBoot ((sampleIdle ++ [samplePost]) ++ sampleRounds)).map
      (fun r => r.2.pc) = some .join := by decide +kernel
  obtain ⟨tr, s', hrun, -⟩ := exists_exec_of_pc hpc
  obtain ⟨tr, s, tr', hx, hx', -⟩ := firmwareMachine.exec_append_eq_some.mp hrun
  -- what the port is before the rounds
  have hport : (firmwareMachine.exec sampleBoot (sampleIdle ++ [samplePost])).map
      (fun r => (r.2.pc, r.2.osal.taskTbl[appTaskIdx]?.map TaskEntry.qHandle,
        r.2.osal.heap.next 5, r.2.osal.heap.body 5)) =
      some (.waiting, some (some 5), some none, some (.cback ⟨0, .pollCnf⟩)) := by
    decide +kernel
  rw [hx, Option.map_some, Option.some_inj, Prod.mk.injEq, Prod.mk.injEq, Prod.mk.injEq] at hport
  obtain ⟨hpc, hqueue, hnext, hbody⟩ := hport
  obtain ⟨task, hget, hqHandle⟩ := Option.map_eq_some_iff.mp hqueue
  have hboxed : s.Holding [(5, ⟨0, .pollCnf⟩)] := by
    refine ⟨task, [5], hget, ⟨hqHandle, none, hnext, rfl⟩, ?_, ?_⟩
    · rw [hpc]
      rfl
    · intro x hx
      obtain rfl := List.mem_singleton.mp hx
      exact hbody
  exact ⟨tr, s, tr', s', hx, hx', handled_of_rounds hx hx' hboxed (by decide)⟩

/-- The application wakes up no more often than the semaphore is posted. -/
theorem countP_isPend_le {app : AppTask} {steps : List FirmwareStep}
    {tr : List FirmwareTransition} {s : Firmware}
    (hx : firmwareMachine.exec (.boot app) steps = some (tr, s)) :
    steps.countP FirmwareStep.isPend ≤
      (steps.filterMap FirmwareStep.posted).length + steps.countP FirmwareStep.isTimeout := by
  obtain ⟨b, trM, -, hxM, -⟩ := mailbox_of_exec (sound_boot app) hx
  rw [mailbox_boot] at hxM
  have h0 : (⟨[], false, .away⟩ : Mailbox.State MacCbackMsg).Awake := fun hne => absurd rfl hne
  have hwakes := Mailbox.wakes_le h0 hxM
  have hwake := countP_mailboxEvents Mailbox.Event.isWake FirmwareStep.isPend any_isWake tr
  have hpost := countP_mailboxEvents Mailbox.Event.isPost
    (fun step => step.posted.isSome || step.isTimeout) any_isPost tr
  rw [firmwareMachine.map_event_of_exec hx] at hwake hpost
  rw [hwake, hpost, countP_posts] at hwakes
  have hzero : (⟨[], false, .away⟩ : Mailbox.State MacCbackMsg).wakesLeft = 0 := rfl
  omega

/-! ## The heap -/

/-- **Every block has one owner**: in every run, the blocks that are allocated are those of the MAC,
those of the messages that have not been handled, and those that have been lost, each of them once.
-/
theorem blocks_owned_once {app : AppTask} {steps : List FirmwareStep}
    {tr : List FirmwareTransition} {s : Firmware}
    (hx : firmwareMachine.exec (.boot app) steps = some (tr, s)) :
    ∃ boxed, s.Holding boxed ∧ Owns s.osal.heap
      (s.macBlocks ++ (boxed.flatMap blocks ++ tr.flatMap fun u => lost u.pre u.event)) := by
  obtain ⟨b, hsound, hforgotten⟩ := sound_of_exec (sound_boot app) hx
  refine ⟨b.messages, hsound.holding, ?_⟩
  have howns := hsound.owns
  rw [Inbox.kept, hforgotten] at howns
  exact howns

/-- The block of a message that has not been handled. -/
theorem blocks_owned_once_pollCnf :
    ∃ tr s boxed, firmwareMachine.exec sampleBoot (sampleIdle ++ [samplePost]) = some (tr, s) ∧
      s.Holding boxed ∧ Owns s.osal.heap
        (s.macBlocks ++ (boxed.flatMap blocks ++ tr.flatMap fun u => lost u.pre u.event)) := by
  have hpc : (firmwareMachine.exec sampleBoot (sampleIdle ++ [samplePost])).map
      (fun r => r.2.pc) = some .waiting := by decide +kernel
  obtain ⟨tr, s, hx, -⟩ := exists_exec_of_pc hpc
  obtain ⟨boxed, hboxed, howns⟩ := blocks_owned_once hx
  exact ⟨tr, s, boxed, hx, hboxed, howns⟩

/-- **How the port is used**: in every run, each part of `OsalPort_msgReceive` is defined where the
application comes to it, and the message in hand is allocated and can be freed after its callback.
The MAC can send its messages, except that a beacon too long for its size to fit eight bits is
copied beyond the block that it gets. -/
theorem port_calls_defined {app : AppTask} {steps : List FirmwareStep}
    {tr : List FirmwareTransition} {s : Firmware}
    (hx : firmwareMachine.exec (.boot app) steps = some (tr, s)) :
    (s.pc = .receiving → (firmwareMachine.step s .take).isSome) ∧
      (∀ pMsg, s.pc = .testing pMsg → (firmwareMachine.step s .look).isSome) ∧
      (∀ pMsg isEmpty, s.pc = .signalling pMsg isEmpty →
        (firmwareMachine.step s .signal).isSome) ∧
      (∀ pMsg device status, s.pc = .handling (some pMsg) → ∃ msg,
        s.osal.heap.body pMsg = some (.cback msg) ∧
        ((firmwareMachine.step s (.handle device status)).isSome ↔
          (s.app.node.incoming device status msg).isSome)) ∧
      ∀ pData msg block retry, CanCback s pData msg block retry →
        ((firmwareMachine.step s (.cback pData msg block retry)).isSome ↔
          ¬ (msg.event.TooLong ∧ block.isSome)) := by
  obtain ⟨b, hsound, -⟩ := sound_of_exec (sound_boot app) hx
  refine ⟨fun hpc => ?_, fun pMsg hpc => ?_, fun pMsg isEmpty hpc => ?_,
    fun pMsg device status hpc => ?_, fun pData msg block retry hcan => ?_⟩
  · obtain ⟨osal', htake, -⟩ := hsound.serves.take
    simp only [firmwareMachine, hpc, htake, Option.map_some, Option.isSome_some]
  · simp only [firmwareMachine, hpc, hsound.serves.look, Option.map_some, Option.isSome_some]
  · obtain ⟨osal', hsignal, -⟩ := hsound.serves.signal appTaskHndl isEmpty
    simp only [firmwareMachine, hpc, hsignal, Option.map_some, Option.isSome_some]
  · obtain ⟨msg, heap₁, heap, st, hbody, hattached, hfree, -⟩ :=
      hsound.moved_handle device status hpc
    obtain ⟨block, hblock, hmsg⟩ := Option.map_eq_some_iff.mp hbody
    refine ⟨msg, hbody, ?_⟩
    simp only [firmwareMachine, hpc, Firmware.handle, hblock, hmsg, hattached, hfree,
      Option.bind_eq_bind, Option.bind_some]
    cases s.app.node.incoming device status msg <;> simp
  · by_cases htoo : msg.event.TooLong ∧ block.isSome
    · simp only [firmwareMachine, if_pos hcan, macCbackEvent_eq_none _ _ _ htoo.1 htoo.2,
        Option.map_none, Option.isSome_none, htoo, and_self, not_true_eq_false,
        Bool.false_eq_true]
    · obtain ⟨osal, b', hcback, -⟩ := hsound.moved_cback hcan fun hlong => by
        by_contra hblock
        exact htoo ⟨hlong, Option.isSome_iff_ne_none.mpr hblock⟩
      simp only [firmwareMachine, if_pos hcan, hcback, Option.map_some, Option.isSome_some, htoo,
        not_false_eq_true]

/-- A beacon with a payload of 200 bytes: 260 bytes are copied to a block of four. -/
def sampleLongBeacon : MacCbackMsg :=
  ⟨0, .beaconNotifyInd macBeaconStandard sampleBeacon.panDesc 0 200⟩

/-- The device has just taken a message, and the MAC receives a long beacon. -/
theorem port_calls_defined_pollCnf :
    ∃ tr s pMsg, firmwareMachine.exec sampleBoot (sampleIdle ++ [samplePost, .pend, .take]) =
        some (tr, s) ∧
      s.pc = .testing pMsg ∧ (firmwareMachine.step s .look).isSome ∧
      ¬ (firmwareMachine.step s (.cback 0 sampleLongBeacon (some 6) none)).isSome := by
  have hrun : (firmwareMachine.exec sampleBoot (sampleIdle ++ [samplePost, .pend, .take])).map
      (fun r => (r.2.pc, decide (CanCback r.2 0 sampleLongBeacon (some 6) none))) =
      some (.testing (some 5), true) := by decide +kernel
  obtain ⟨⟨tr, s⟩, hx, hend⟩ := Option.map_eq_some_iff.mp hrun
  obtain ⟨hpc, hcan⟩ := Prod.mk.inj hend
  obtain ⟨-, hlook, -, -, hcback⟩ := port_calls_defined hx
  refine ⟨tr, s, _, hx, hpc, hlook _ hpc, fun hdef => ?_⟩
  exact (hcback 0 sampleLongBeacon (some 6) none (of_decide_eq_true hcan)).mp hdef
    ⟨by decide, rfl⟩

end SensorCollector
