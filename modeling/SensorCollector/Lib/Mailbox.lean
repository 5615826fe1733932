import SensorCollector.Lib.EventMachine

set_option relaxedAutoImplicit false
set_option autoImplicit false

/-!
# Mailboxes

A mailbox is a queue with a binary semaphore. A sender puts a message into the queue and posts the
semaphore, in one step; the semaphore can also be posted for another reason. The receiver waits for
the semaphore, takes one message out of the queue, tests whether messages are left, and posts the
semaphore itself if so. Between any two of its steps messages can arrive.

The test comes after the message has been taken out, and a message that arrives after the test posts
the semaphore. So no wake-up is lost. A wake-up may find no message, but there are no more wake-ups
than messages and other posts.

## Main definitions

* `Mailbox.Phase`, `Mailbox.State` — where the receiver is, and the state of a mailbox.
* `Mailbox.machine` — the steps of a mailbox.
* `Mailbox.State.Awake` — the receiver is not going to sleep on a message.

## Main results

* `Mailbox.fifo` — messages are received once each, in the order they were sent in.
* `Mailbox.State.Awake.step` — no wake-up is lost.
* `Mailbox.received_of_releases` — messages are received after as many rounds of the receiver as
  there are messages before them.
* `Mailbox.wakes_le` — there are no more wake-ups than messages and posts.
-/

namespace Mailbox

open EventMachine

/-- Where the receiver is. -/
inductive Phase (α : Type*)
  /-- It does something else. -/
  | away
  /-- It waits for the semaphore. -/
  | waiting
  /-- It has got the semaphore. -/
  | woken
  /-- It has taken a message out of the queue, or found none. -/
  | taken (msg : Option α)
  /-- It has tested whether the queue is empty. -/
  | tested (msg : Option α) (isEmpty : Bool)
  /-- It has posted the semaphore, if messages were left. -/
  | holding (msg : Option α)

/-- A mailbox with its receiver. -/
structure State (α : Type*) where
  queue : List α
  /-- The semaphore can be taken. -/
  sem : Bool
  phase : Phase α

/-- The steps of senders and of the receiver. -/
inductive Event (α : Type*)
  | send (msg : α)
  /-- The semaphore is posted for another reason. -/
  | post
  | wait
  | wake
  | take
  | test
  | signal
  /-- The receiver is done with its message. -/
  | release

variable {α : Type*}

/-- The message that the receiver has taken out of the queue. -/
def Phase.inHand : Phase α → List α
  | .taken msg | .tested msg _ | .holding msg => msg.toList
  | .away | .waiting | .woken => []

/-- The messages that have not been received. -/
def State.pending (s : State α) : List α := s.phase.inHand ++ s.queue

/-- A mailbox as a machine. Its output is the message that the receiver is done with. -/
def machine : EventMachine (State α) (Event α) (Option α) where
  step s
    | .send msg => some ({ s with queue := s.queue ++ [msg], sem := true }, none)
    | .post => some ({ s with sem := true }, none)
    | .wait =>
      match s.phase with
      | .away => some ({ s with phase := .waiting }, none)
      | _ => none
    | .wake =>
      match s.phase, s.sem with
      | .waiting, true => some ({ s with sem := false, phase := .woken }, none)
      | _, _ => none
    | .take =>
      match s.phase with
      | .woken => some ({ s with queue := s.queue.tail, phase := .taken s.queue.head? }, none)
      | _ => none
    | .test =>
      match s.phase with
      | .taken msg => some ({ s with phase := .tested msg s.queue.isEmpty }, none)
      | _ => none
    | .signal =>
      match s.phase with
      | .tested msg isEmpty =>
        some ({ s with sem := s.sem || !isEmpty, phase := .holding msg }, none)
      | _ => none
    | .release =>
      match s.phase with
      | .holding msg => some ({ s with phase := .away }, msg)
      | _ => none

/-- The message that is sent. -/
def Event.sent : Event α → Option α
  | .send msg => some msg
  | _ => none

/-- The semaphore is posted, with or without a message. -/
def Event.isPost : Event α → Bool
  | .send _ | .post => true
  | _ => false

/-- The receiver gets the semaphore. -/
def Event.isWake : Event α → Bool
  | .wake => true
  | _ => false

/-- The receiver is done with its message. -/
def Event.isRelease : Event α → Bool
  | .release => true
  | _ => false

/-- **What a step can do.** -/
inductive StepsTo (s : State α) : Event α → State α → Option α → Prop
  | send (msg : α) : StepsTo s (.send msg) { s with queue := s.queue ++ [msg], sem := true } none
  | post : StepsTo s .post { s with sem := true } none
  | wait (h : s.phase = .away) : StepsTo s .wait { s with phase := .waiting } none
  | wake (h : s.phase = .waiting) (hsem : s.sem = true) :
    StepsTo s .wake { s with sem := false, phase := .woken } none
  | take (h : s.phase = .woken) :
    StepsTo s .take { s with queue := s.queue.tail, phase := .taken s.queue.head? } none
  | test {msg : Option α} (h : s.phase = .taken msg) :
    StepsTo s .test { s with phase := .tested msg s.queue.isEmpty } none
  | signal {msg : Option α} {isEmpty : Bool} (h : s.phase = .tested msg isEmpty) :
    StepsTo s .signal { s with sem := s.sem || !isEmpty, phase := .holding msg } none
  | release {msg : Option α} (h : s.phase = .holding msg) :
    StepsTo s .release { s with phase := .away } msg

/-- Every step is one of these cases. -/
theorem stepsTo_of_step {s s' : State α} {e : Event α} {o : Option α}
    (hs : machine.step s e = some (s', o)) : StepsTo s e s' o := by
  obtain ⟨queue, sem, phase⟩ := s
  cases e with
  | send msg =>
    obtain ⟨rfl, rfl⟩ := Prod.mk.inj (Option.some.inj hs)
    exact .send msg
  | post =>
    obtain ⟨rfl, rfl⟩ := Prod.mk.inj (Option.some.inj hs)
    exact .post
  | wake =>
    cases phase <;> cases sem <;> first
      | (obtain ⟨rfl, rfl⟩ := Prod.mk.inj (Option.some.inj hs); exact .wake rfl rfl)
      | cases hs
  | wait | take | test | signal | release =>
    cases phase <;> first
      | (obtain ⟨rfl, rfl⟩ := Prod.mk.inj (Option.some.inj hs); constructor; rfl)
      | cases hs

/-! ## Every message once, in order -/

/-- **One step** moves messages on, in order. -/
theorem StepsTo.pending_eq {s s' : State α} {e : Event α} {o : Option α} (h : StepsTo s e s' o) :
    s.pending ++ e.sent.toList = o.toList ++ s'.pending := by
  obtain ⟨queue, sem, phase⟩ := s
  cases h with
  | send msg => simp [State.pending, Event.sent]
  | post => simp [State.pending, Event.sent]
  | wait h | wake h | test h | signal h | release h =>
    obtain rfl : phase = _ := h
    simp [State.pending, Phase.inHand, Event.sent]
  | take h =>
    obtain rfl : phase = _ := h
    cases queue <;> simp [State.pending, Phase.inHand, Event.sent]

/-- **First in, first out, and each once**: what had not been received at the start, and what has
been sent since, is what has been received since and what has not been received at the end. -/
theorem fifo {s₀ s : State α} {es : List (Event α)}
    {tr : List (Transition (State α) (Event α) (Option α))}
    (hx : machine.exec s₀ es = some (tr, s)) :
    s₀.pending ++ es.filterMap Event.sent = tr.filterMap Transition.out ++ s.pending := by
  refine machine.exec_induction (P := fun es tr s =>
    s₀.pending ++ es.filterMap Event.sent = tr.filterMap Transition.out ++ s.pending)
    (by simp) ?_ hx
  intro es tr s e s' o _ ih hs
  have hstep := (stepsTo_of_step hs).pending_eq
  have hsent : [e].filterMap Event.sent = e.sent.toList := by
    cases h : e.sent <;> simp [h]
  have hout : [(⟨s, e, o, s'⟩ : Transition (State α) (Event α) (Option α))].filterMap
      Transition.out = o.toList := by
    cases o <;> rfl
  rw [List.filterMap_append, List.filterMap_append, hsent, hout, ← List.append_assoc, ih,
    List.append_assoc, hstep, List.append_assoc]

/-! ## No lost wake-up -/

/-- The receiver is not going to sleep on a message: unless it is in the middle of a reception, it
can take the semaphore if a message is in the queue. A message that it has seen in the queue is
still there. -/
def State.Awake (s : State α) : Prop :=
  match s.phase with
  | .away | .waiting | .holding _ | .tested _ true => s.queue ≠ [] → s.sem = true
  | .tested _ false => s.queue ≠ []
  | .woken | .taken _ => True

/-- **No wake-up is lost.** -/
theorem State.Awake.step {s s' : State α} {e : Event α} {o : Option α} (h : s.Awake)
    (hs : machine.step s e = some (s', o)) : s'.Awake := by
  obtain ⟨queue, sem, phase⟩ := s
  cases stepsTo_of_step hs with
  | send msg =>
    simp only [State.Awake]
    split <;> simp
  | post =>
    cases phase with
    | tested msg isEmpty =>
      cases isEmpty with
      | true => exact fun _ => rfl
      | false => exact h
    | woken | taken msg => trivial
    | _ => exact fun _ => rfl
  | wait hphase =>
    obtain rfl : phase = _ := hphase
    exact h
  | wake hphase hsem => trivial
  | take hphase => trivial
  | test hphase =>
    -- if the queue is empty there is nothing to show
    cases queue with
    | nil => exact fun hne => absurd rfl hne
    | cons msg queue => exact List.cons_ne_nil msg queue
  | @signal msg isEmpty hphase =>
    obtain rfl : phase = _ := hphase
    cases isEmpty with
    | true =>
      intro hne
      simpa using h hne
    | false =>
      intro _
      simp
  | release hphase =>
    obtain rfl : phase = _ := hphase
    exact h

/-- **A receiver that waits in vain has no message**: if it cannot take the semaphore, the queue is
empty. -/
theorem State.Awake.queue_eq_nil {s : State α} (h : s.Awake) (hphase : s.phase = .waiting)
    (hsem : s.sem = false) : s.queue = [] := by
  by_contra hne
  rw [State.Awake, hphase] at h
  exact absurd (h hne) (by simp [hsem])

/-! ## How long a message waits -/

/-- The receiver has come to the queue in this round. -/
def Phase.isPastTake : Phase α → Bool
  | .taken _ | .tested _ _ | .holding _ => true
  | .away | .waiting | .woken => false

/-- A receiver that has not come to the queue has nothing in hand. -/
theorem Phase.length_inHand_le (phase : Phase α) :
    phase.inHand.length ≤ phase.isPastTake.toNat := by
  cases phase with
  | taken msg | tested msg isEmpty | holding msg =>
    cases msg <;> simp [inHand, isPastTake]
  | _ => simp [inHand, isPastTake]

/-- Rounds and messages: `n` rounds have been completed and `received` messages received, since
`ahead` of them were pending. Either these have all been received, or every round but one has taken
out a message. -/
def Served (ahead n received : ℕ) (s : State α) : Prop :=
  ahead ≤ received ∨
    n + s.phase.isPastTake.toNat ≤ received + s.phase.inHand.length + 1

/-- **One step** keeps the count. A round that finds no message has served all that were pending,
because nothing is left of them. -/
theorem Served.step {ahead n received : ℕ} {s s' : State α} {e : Event α} {o : Option α}
    (h : Served ahead n received s) (hall : ahead ≤ received + s.pending.length)
    (hs : machine.step s e = some (s', o)) :
    Served ahead (n + e.isRelease.toNat) (received + o.toList.length) s' := by
  obtain ⟨queue, sem, phase⟩ := s
  cases stepsTo_of_step hs with
  | send msg | post => exact h
  | wait hphase | wake hphase | test hphase | signal hphase =>
    obtain rfl : phase = _ := hphase
    simpa [Served, Phase.inHand, Phase.isPastTake, Event.isRelease] using h
  | take hphase =>
    obtain rfl : phase = _ := hphase
    cases queue with
    | nil =>
      left
      simpa [State.pending, Phase.inHand] using hall
    | cons msg queue =>
      simp only [Served, Phase.inHand, Phase.isPastTake, Event.isRelease, List.length_nil,
        Bool.toNat_false, List.head?_cons, Option.toList_some, Option.toList_none,
        List.length_singleton, Bool.toNat_true] at h ⊢
      omega
  | @release msg hphase =>
    obtain rfl : phase = _ := hphase
    simp only [Served, Phase.inHand, Phase.isPastTake, Event.isRelease, List.length_nil,
      Bool.toNat_false, Bool.toNat_true] at h ⊢
    omega

/-- **How long a message waits**: after more rounds of the receiver than messages were pending, all
of these have been received, in order, before any other. -/
theorem received_of_releases {s₀ s : State α} {es : List (Event α)}
    {tr : List (Transition (State α) (Event α) (Option α))}
    (hx : machine.exec s₀ es = some (tr, s))
    (hrounds : s₀.pending.length < es.countP Event.isRelease) :
    s₀.pending <+: tr.filterMap Transition.out := by
  have hserved : Served s₀.pending.length (es.countP Event.isRelease)
      (tr.filterMap Transition.out).length s := by
    refine machine.exec_induction (P := fun es tr s => Served s₀.pending.length
      (es.countP Event.isRelease) (tr.filterMap Transition.out).length s) ?_ ?_ hx
    · right
      have hle := s₀.phase.isPastTake.toNat_le
      simp only [List.countP_nil, List.filterMap_nil, List.length_nil]
      omega
    · intro es tr s e s' o hx' ih hs
      have hfifo := congrArg List.length (fifo hx')
      simp only [List.length_append] at hfifo
      have hstep := ih.step (by omega) hs
      have hout : [(⟨s, e, o, s'⟩ : Transition (State α) (Event α) (Option α))].filterMap
          Transition.out = o.toList := by
        cases o <;> rfl
      have hcount : [e].countP Event.isRelease = e.isRelease.toNat := by
        cases e <;> rfl
      rwa [List.countP_append, hcount, List.filterMap_append, hout, List.length_append]
  have hlen : s₀.pending.length ≤ (tr.filterMap Transition.out).length := by
    have hhand := s.phase.length_inHand_le
    have hle := s.phase.isPastTake.toNat_le
    have hfifo := congrArg List.length (fifo hx)
    simp only [List.length_append, State.pending] at hfifo hserved ⊢ hrounds
    rcases hserved with hall | hserved
    · exact hall
    · omega
  have hprefix : tr.filterMap Transition.out <+: s₀.pending ++ es.filterMap Event.sent := by
    rw [fifo hx]
    exact List.prefix_append _ _
  exact List.prefix_of_prefix_length_le (List.prefix_append _ _) hprefix hlen

/-! ## How often the receiver wakes up -/

/-- How often the receiver still wakes up if nothing arrives: once for each message that is left for
another round, and at least once if the semaphore can be taken. -/
def State.wakesLeft (s : State α) : ℕ :=
  match s.phase with
  | .woken => max (s.queue.length - 1) s.sem.toNat
  | _ => max s.queue.length s.sem.toNat

/-- **One step**: a wake-up uses up one that was left, and a post adds no more than one. -/
theorem State.Awake.wakesLeft_le {s s' : State α} {e : Event α} {o : Option α} (h : s.Awake)
    (hs : machine.step s e = some (s', o)) :
    e.isWake.toNat + s'.wakesLeft ≤ s.wakesLeft + e.isPost.toNat := by
  obtain ⟨queue, sem, phase⟩ := s
  have hsem : sem.toNat ≤ 1 := sem.toNat_le
  cases stepsTo_of_step hs with
  | send msg | post =>
    cases phase <;> simp [State.wakesLeft, Event.isWake, Event.isPost] <;> omega
  | wait hphase | test hphase | release hphase =>
    obtain rfl : phase = _ := hphase
    simp [State.wakesLeft, Event.isWake, Event.isPost]
  | wake hphase hsem' =>
    obtain rfl : phase = _ := hphase
    obtain rfl : sem = true := hsem'
    simp [State.wakesLeft, Event.isWake, Event.isPost]
    omega
  | take hphase =>
    obtain rfl : phase = _ := hphase
    simp [State.wakesLeft, Event.isWake, Event.isPost]
  | @signal msg isEmpty hphase =>
    obtain rfl : phase = _ := hphase
    cases isEmpty with
    | true => simp [State.wakesLeft, Event.isWake, Event.isPost]
    | false =>
      -- messages are left, so there is another round anyway
      have hpos : 0 < queue.length := List.length_pos_iff.mpr h
      simp [State.wakesLeft, Event.isWake, Event.isPost]
      omega

/-- **No more wake-ups than messages and posts.** -/
theorem wakes_le {s₀ s : State α} {es : List (Event α)}
    {tr : List (Transition (State α) (Event α) (Option α))} (h0 : s₀.Awake)
    (hx : machine.exec s₀ es = some (tr, s)) :
    es.countP Event.isWake + s.wakesLeft ≤ s₀.wakesLeft + es.countP Event.isPost := by
  have hboth : s.Awake ∧
      es.countP Event.isWake + s.wakesLeft ≤ s₀.wakesLeft + es.countP Event.isPost := by
    refine machine.exec_induction (P := fun es _ s => s.Awake ∧
      es.countP Event.isWake + s.wakesLeft ≤ s₀.wakesLeft + es.countP Event.isPost)
      ⟨h0, by simp⟩ ?_ hx
    intro es tr s e s' o _ ih hs
    obtain ⟨hawake, hle⟩ := ih
    refine ⟨hawake.step hs, ?_⟩
    have hstep := hawake.wakesLeft_le hs
    have hwake : [e].countP Event.isWake = e.isWake.toNat := by cases e <;> rfl
    have hpost : [e].countP Event.isPost = e.isPost.toNat := by cases e <;> rfl
    rw [List.countP_append, List.countP_append, hwake, hpost]
    omega
  exact hboth.2

end Mailbox
