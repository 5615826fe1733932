import SensorCollector.Collector.Table
import SensorCollector.Lib.PastTime

set_option relaxedAutoImplicit false
set_option autoImplicit false

/-!
# Opening the network

A collector should permit association only after its network has really started. The callback of the
start confirm does not read its status, and `process` opens the network whenever a confirm has
arrived. So a collector opens it too early in two ways: a failed start is taken for a success, and a
confirm of an earlier attempt opens the network in the call of `process` that starts it anew.

## Main definitions

* `SensorCollector.occurrences` — the steps of a run and the calls made in them, in order.
* `SensorCollector.PermitsAfterStart` — association is permitted only after a successful start.
* `SensorCollector.Asked`, `SensorCollector.Confirmed`, `SensorCollector.Started`,
  `SensorCollector.OpensAfterStart` — the condition on the steps of a run.

## Main results

* `SensorCollector.permitsAfterStart_iff` — the runs that permit association only after a successful
  start.
-/

namespace SensorCollector

open EventMachine

/-- A step of a run of the collector. -/
abbrev CollectorTransition := Transition FifteenDotFourCollector CollectorStep (List MacCall)

/-- What occurs in a run, in order: each step, and after it the calls that are made in it. -/
def occurrences (tr : List CollectorTransition) : List (CollectorStep ⊕ MacCall) :=
  tr.flatMap fun t => .inl t.event :: t.out.map .inr

/-- A start request is made. -/
def IsStartReq (x : CollectorStep ⊕ MacCall) : Prop := ∃ req, x = .inr (.mlmeStartReq req)

/-- Since the most recent start request, a start confirm with status success has been delivered. -/
def StartedSince (past : List (CollectorStep ⊕ MacCall)) : Prop :=
  past.Since (fun _ y => IsStartReq y) (· = .inl (.startCnf .success))

/-- If `x` sets the attribute that permits association, the network has started since the most
recent start request. -/
def StartedIfPermits (past : List (CollectorStep ⊕ MacCall)) (x : CollectorStep ⊕ MacCall) : Prop :=
  x = .inr (.mlmeSetReqBool .associatePermit true) → StartedSince past

/-- Whenever association is permitted, a start confirm with status success has been delivered since
the most recent start request. -/
def PermitsAfterStart (tr : List CollectorTransition) : Prop :=
  (occurrences tr).Always StartedIfPermits

/-! ## The condition on the steps -/

/-- `start` has been called since the last call of `process`. -/
def Asked (steps : List CollectorStep) : Prop :=
  steps.Since (fun _ e => e = .process) (· = .start)

/-- A start confirm has been delivered since the last call of `process`. -/
def Confirmed (steps : List CollectorStep) : Prop :=
  steps.Since (fun _ e => e = .process) fun e => ∃ status, e = .startCnf status

/-- A start confirm with status success has been delivered since the last call of `process` that a
call of `start` preceded. -/
def Started (steps : List CollectorStep) : Prop :=
  steps.Since (fun past e => e = .process ∧ Asked past) (· = .startCnf .success)

/-- Whenever `process` is called after a start confirm, `start` has not been called before it, and
one of the confirms since the last attempt to start was a success. -/
def OpensAfterStart (steps : List CollectorStep) : Prop :=
  steps.Always fun past e => e = .process → Confirmed past → ¬ Asked past ∧ Started past

/-! ## One step -/

/-- The bit of `START_EVENT` is in the word. -/
theorem startBit_lt : startBit < 16 := by decide

/-- The bit of `OPEN_EVENT` is in the word. -/
theorem openBit_lt : openBit < 16 := by decide

/-- The two events have different bits. -/
theorem startBit_ne_openBit : startBit ≠ openBit := by decide

/-- The occurrences of a run with one more step. -/
theorem occurrences_concat (tr : List CollectorTransition) (t : CollectorTransition) :
    occurrences (tr ++ [t]) = occurrences tr ++ [.inl t.event] ++ t.out.map .inr := by
  simp [occurrences]

/-- A step other than `process` sets its own event and makes no start request, and does not permit
association. -/
theorem step_of_ne_process {c c' : FifteenDotFourCollector} {e : CollectorStep}
    {calls : List MacCall} (hs : collectorMachine.step c e = some (c', calls))
    (hne : e ≠ .process) :
    (FlagBits.IsSet c'.revents startBit ↔ e = .start ∨ FlagBits.IsSet c.revents startBit) ∧
      (FlagBits.IsSet c'.revents openBit ↔
        (∃ status, e = .startCnf status) ∨ FlagBits.IsSet c.revents openBit) ∧
      ∀ call ∈ calls, (∀ req, call ≠ .mlmeStartReq req) ∧
        call ≠ .mlmeSetReqBool .associatePermit true := by
  cases e with
  | process => exact absurd rfl hne
  | start =>
    obtain ⟨rfl, rfl⟩ := Prod.mk.inj (Option.some.inj hs)
    unfold FifteenDotFourCollector.start startEvent
    simp [FlagBits.isSet_or_bit startBit_lt startBit_lt,
      FlagBits.isSet_or_bit openBit_lt startBit_lt, startBit_ne_openBit.symm]
  | startCnf status =>
    obtain ⟨rfl, rfl⟩ := Prod.mk.inj (Option.some.inj hs)
    unfold FifteenDotFourCollector.startCnfCb openEvent
    simp [FlagBits.isSet_or_bit startBit_lt openBit_lt,
      FlagBits.isSet_or_bit openBit_lt openBit_lt, startBit_ne_openBit]
  | assocInd pData device status =>
    obtain ⟨rfl, rfl⟩ := Prod.mk.inj (Option.some.inj hs)
    have hrev : (c.assocIndCb device status pData).1.revents = c.revents := by
      obtain ⟨table, numAssocDevices, h⟩ := c.assocIndCb_frame device status pData
      rw [h]
    simp [hrev]
  | disassocInd pData =>
    obtain ⟨rfl, rfl⟩ := Prod.mk.inj (Option.some.inj hs)
    simp [FifteenDotFourCollector.disassocIndCb]
  | dataInd pDataInd =>
    simp only [collectorMachine, FifteenDotFourCollector.dataIndCB, Option.map_map,
      Option.map_eq_some_iff] at hs
    obtain ⟨node, -, heq⟩ := hs
    obtain ⟨rfl, rfl⟩ := Prod.mk.inj heq
    simp

/-- A call of `process` clears both events; it makes a start request if `START_EVENT` was set, and
then permits association if `OPEN_EVENT` was set. -/
theorem process_cases (c : FifteenDotFourCollector) :
    ¬ FlagBits.IsSet c.process.1.revents startBit ∧ ¬ FlagBits.IsSet c.process.1.revents openBit ∧
      c.process.2 =
        (if FlagBits.IsSet c.revents startBit then [.mlmeStartReq c.startReq] else []) ++
        (if FlagBits.IsSet c.revents openBit then
          [.mlmeSetReqBool .associatePermit true] else []) ++
        (if c.process.1.revents = 0 then [.processIncoming] else []) := by
  have hafter : FlagBits.IsSet c.processStart.1.revents openBit ↔
      FlagBits.IsSet c.revents openBit := by
    unfold FifteenDotFourCollector.processStart startEvent
    split_ifs
    · rw [FlagBits.isSet_and_not_bit openBit_lt startBit_lt, and_iff_left startBit_ne_openBit.symm]
    · rfl
  have hclear : ¬ FlagBits.IsSet c.processStart.1.revents startBit := by
    unfold FifteenDotFourCollector.processStart startEvent
    split_ifs with h
    · rw [FlagBits.isSet_and_not_bit startBit_lt startBit_lt]
      exact fun hset => hset.2 rfl
    · exact h
  have hrevents : c.process.1.revents = c.processStart.1.processOpen.1.revents := rfl
  refine ⟨?_, ?_, ?_⟩
  · rw [hrevents, FifteenDotFourCollector.processOpen, openEvent]
    split_ifs
    · rw [FlagBits.isSet_and_not_bit startBit_lt openBit_lt]
      exact fun hset => hclear hset.1
    · exact hclear
  · rw [hrevents, FifteenDotFourCollector.processOpen, openEvent]
    split_ifs with h
    · rw [FlagBits.isSet_and_not_bit openBit_lt openBit_lt]
      exact fun hset => hset.2 rfl
    · exact h
  · have h₁ : c.processStart.2 = if FlagBits.IsSet c.revents startBit then
        [.mlmeStartReq c.startReq] else [] := by
      unfold FifteenDotFourCollector.processStart
      split_ifs <;> rfl
    have h₂ : c.processStart.1.processOpen.2 = if FlagBits.IsSet c.revents openBit then
        [.mlmeSetReqBool .associatePermit true] else [] := by
      unfold FifteenDotFourCollector.processOpen
      simp only [hafter]
      split_ifs <;> rfl
    rw [← h₁, ← h₂]
    rfl

/-! ## Runs -/

/-- What a run of a new collector has come to: which events are set, whether its network has
started, and whether it was opened only after that. -/
structure OpeningInv (steps : List CollectorStep) (tr : List CollectorTransition)
    (c : FifteenDotFourCollector) : Prop where
  asked : FlagBits.IsSet c.revents startBit ↔ Asked steps
  confirmed : FlagBits.IsSet c.revents openBit ↔ Confirmed steps
  started : StartedSince (occurrences tr) ↔ Started steps
  permits : PermitsAfterStart tr ↔ OpensAfterStart steps

/-- A step other than `process` keeps the run invariant. -/
theorem OpeningInv.step_of_ne_process {steps : List CollectorStep} {tr : List CollectorTransition}
    {c c' : FifteenDotFourCollector} (h : OpeningInv steps tr c) {e : CollectorStep}
    {calls : List MacCall} (hs : collectorMachine.step c e = some (c', calls))
    (hne : e ≠ .process) : OpeningInv (steps ++ [e]) (tr ++ [⟨c, e, calls, c'⟩]) c' := by
  obtain ⟨hstart, hopen, hcalls⟩ := SensorCollector.step_of_ne_process hs hne
  refine ⟨?_, ?_, ?_, ?_⟩
  · rw [hstart, Asked, List.since_concat, and_iff_right hne, h.asked]
    rfl
  · rw [hopen, Confirmed, List.since_concat, and_iff_right hne, h.confirmed]
    rfl
  · have hneutral : ∀ x ∈ calls.map (Sum.inr : MacCall → CollectorStep ⊕ MacCall),
        ¬ x = .inl (.startCnf .success) ∧
          ∀ _ : List (CollectorStep ⊕ MacCall), ¬ IsStartReq x := by
      intro x hx
      obtain ⟨call, hcall, rfl⟩ := List.mem_map.mp hx
      refine ⟨by simp, ?_⟩
      rintro - ⟨req, hreq⟩
      exact (hcalls call hcall).1 req (Sum.inr.inj hreq)
    have hevent : ¬ IsStartReq (.inl e) := by
      rintro ⟨req, hreq⟩
      cases hreq
    rw [StartedSince, occurrences_concat, List.since_append_of_neutral hneutral, List.since_concat,
      and_iff_right hevent, Started, List.since_concat, and_iff_right fun hstop => hne hstop.1,
      Sum.inl.injEq]
    exact or_congr_right h.started
  · have hneutral : ∀ x ∈ calls.map (Sum.inr : MacCall → CollectorStep ⊕ MacCall), ∀ past,
        StartedIfPermits past x := by
      intro x hx _ heq
      obtain ⟨call, hcall, rfl⟩ := List.mem_map.mp hx
      exact absurd (Sum.inr.inj heq) (hcalls call hcall).2
    rw [PermitsAfterStart, occurrences_concat, List.always_append_of_neutral hneutral,
      List.always_concat, OpensAfterStart, List.always_concat]
    exact and_congr h.permits (iff_of_true (by simp [StartedIfPermits]) fun heq => absurd heq hne)

/-- A call of `process` keeps the run invariant: it permits association if a confirm has arrived,
and by then a start request of its own is the most recent one. -/
theorem OpeningInv.step_process {steps : List CollectorStep} {tr : List CollectorTransition}
    {c : FifteenDotFourCollector} (h : OpeningInv steps tr c) :
    OpeningInv (steps ++ [.process]) (tr ++ [⟨c, .process, c.process.2, c.process.1⟩])
      c.process.1 := by
  obtain ⟨hstart, hopen, hcalls⟩ := process_cases c
  have hocc : occurrences (tr ++ [⟨c, .process, c.process.2, c.process.1⟩]) =
      occurrences tr ++ [.inl .process] ++
        (if FlagBits.IsSet c.revents startBit then [.inr (.mlmeStartReq c.startReq)] else []) ++
        (if FlagBits.IsSet c.revents openBit then
          [.inr (.mlmeSetReqBool .associatePermit true)] else []) ++
        (if c.process.1.revents = 0 then [.inr .processIncoming] else []) := by
    rw [occurrences_concat, hcalls]
    simp only [List.map_append, apply_ite (List.map _), List.map_singleton, List.map_nil,
      List.append_assoc]
  -- the step itself is neither a start request nor a confirm
  set s₀ := occurrences tr ++ [.inl .process] with hs₀
  have hstarted₀ : StartedSince s₀ ↔ Started steps := by
    rw [hs₀, StartedSince, List.since_concat, or_iff_right (by simp), ← h.started]
    refine and_iff_right ?_
    rintro ⟨req, hreq⟩
    cases hreq
  have hpermits₀ : s₀.Always StartedIfPermits ↔ OpensAfterStart steps := by
    rw [hs₀, List.always_concat, ← h.permits]
    exact and_iff_left (by simp [StartedIfPermits])
  -- a start request of this call is the most recent one
  set s₁ := s₀ ++ (if FlagBits.IsSet c.revents startBit then [.inr (.mlmeStartReq c.startReq)]
    else []) with hs₁
  have hstarted₁ : StartedSince s₁ ↔ ¬ Asked steps ∧ Started steps := by
    rw [hs₁, StartedSince, List.since_append_ite, ← h.asked, ← hstarted₀, StartedSince]
    simp [IsStartReq]
  have hpermits₁ : s₁.Always StartedIfPermits ↔ OpensAfterStart steps := by
    rw [hs₁, List.always_append_ite, hpermits₀]
    exact and_iff_left (by simp [StartedIfPermits])
  -- association is permitted if a confirm has arrived
  set s₂ := s₁ ++ (if FlagBits.IsSet c.revents openBit then
    [.inr (.mlmeSetReqBool .associatePermit true)] else []) with hs₂
  have hstarted₂ : StartedSince s₂ ↔ StartedSince s₁ := by
    rw [hs₂, StartedSince, List.since_append_ite, StartedSince]
    simp [IsStartReq]
  have hpermits₂ : s₂.Always StartedIfPermits ↔ OpensAfterStart (steps ++ [.process]) := by
    rw [hs₂, OpensAfterStart, List.always_concat, ← h.confirmed, ← hstarted₁, imp_iff_right rfl,
      List.always_append_ite, hpermits₁, StartedIfPermits, imp_iff_right rfl]
    rfl
  refine ⟨?_, ?_, ?_, ?_⟩
  · rw [Asked, List.since_concat]
    simp [hstart]
  · rw [Confirmed, List.since_concat]
    simp [hopen]
  · rw [hocc, Started, List.since_concat, or_iff_right (by simp)]
    simp only [true_and]
    refine Iff.trans ?_ (hstarted₂.trans hstarted₁)
    rw [StartedSince, List.since_append_ite, StartedSince]
    simp [IsStartReq]
  · rw [PermitsAfterStart, hocc, List.always_append_ite, ← hpermits₂]
    exact and_iff_left (by simp [StartedIfPermits])

/-- A collector with no event set has not come to anything yet. -/
theorem OpeningInv.init {c : FifteenDotFourCollector} (h : c.revents = 0) : OpeningInv [] [] c where
  asked := by simp [h, Asked, FlagBits.IsSet]
  confirmed := by simp [h, Confirmed, FlagBits.IsSet]
  started := by simp [occurrences, StartedSince, Started]
  permits := by simp [PermitsAfterStart, occurrences, OpensAfterStart]

/-- **Every run of a collector that starts with no event set has the run invariant.** -/
theorem openingInv_of_exec {c₀ c : FifteenDotFourCollector} (h0 : c₀.revents = 0)
    {steps : List CollectorStep} {tr : List CollectorTransition}
    (h : collectorMachine.exec c₀ steps = some (tr, c)) : OpeningInv steps tr c := by
  refine collectorMachine.exec_induction (P := OpeningInv) (OpeningInv.init h0) ?_ h
  intro steps tr c e c' calls _ hinv hs
  by_cases hproc : e = .process
  · subst hproc
    obtain ⟨rfl, rfl⟩ := Prod.mk.inj (Option.some.inj hs)
    exact hinv.step_process
  · exact hinv.step_of_ne_process hs hproc

/-- **A collector opens its network only after it has started, exactly if no confirm misleads it.**
In a run of a collector that starts with no event set, association is permitted only after a start
confirm with status success since the most recent start request, if and only if every call of
`process` that follows a start confirm meets no call of `start` before it, and a success among the
confirms since the last attempt to start.

**Proof sketch.** An event is set if and only if what sets it has happened since the last call of
`process`, so a call makes a start request if `start` was called, and then permits association if a
confirm has arrived. -/
theorem permitsAfterStart_iff {c₀ c : FifteenDotFourCollector} (h0 : c₀.revents = 0)
    {steps : List CollectorStep} {tr : List CollectorTransition}
    (h : collectorMachine.exec c₀ steps = some (tr, c)) :
    PermitsAfterStart tr ↔ OpensAfterStart steps :=
  (openingInv_of_exec h0 h).permits

/-- A start that succeeds, and is opened. -/
theorem permitsAfterStart_iff_success :
    ∃ tr c, collectorMachine.exec sampleCollector
        [.start, .process, .startCnf .success, .process] = some (tr, c) ∧
      (PermitsAfterStart tr ↔
        OpensAfterStart [.start, .process, .startCnf .success, .process]) := by
  obtain ⟨tr, c, hx⟩ : ∃ tr c, collectorMachine.exec sampleCollector
      [.start, .process, .startCnf .success, .process] = some (tr, c) := ⟨_, _, rfl⟩
  exact ⟨tr, c, hx, permitsAfterStart_iff rfl hx⟩

/-- A start that fails is opened all the same. -/
theorem not_permitsAfterStart_failed :
    ∃ tr c, collectorMachine.exec sampleCollector
        [.start, .process, .startCnf .noAck, .process] = some (tr, c) ∧
      ¬ PermitsAfterStart tr := by
  obtain ⟨tr, c, hx⟩ : ∃ tr c, collectorMachine.exec sampleCollector
      [.start, .process, .startCnf .noAck, .process] = some (tr, c) := ⟨_, _, rfl⟩
  refine ⟨tr, c, hx, fun hperm => ?_⟩
  have hopens := (openingInv_of_exec rfl hx).permits.mp hperm
  -- the last call of `process` follows a confirm, but no success
  have hlast := hopens [.start, .process, .startCnf .noAck] .process [] rfl rfl
  have hconfirmed : Confirmed [.start, .process, .startCnf .noAck] :=
    ⟨[.start, .process], _, [], rfl, ⟨_, rfl⟩, by simp⟩
  obtain ⟨past, x, after, heq, rfl, -⟩ := (hlast hconfirmed).2
  have hmem : CollectorStep.startCnf .success ∈ [.start, .process, .startCnf .noAck] := by
    rw [heq]
    simp
  exact absurd hmem (by decide)

end SensorCollector
