import SensorCollector.Lib.Simulation
import SensorCollector.Timers.Table

set_option relaxedAutoImplicit false
set_option autoImplicit false

/-!
# Runs of the timers

What holds of the timers in every run, in whatever order they are started, stopped and cleaned up
and their clocks expire.

Two things go wrong if the clock of a timer that does not reload expires during the clean-up. After
the first entry has been freed, the callback reads it. Before that, if the clean-up has read the
link of the last entry, the entry of the timer is never freed.

## Main definitions

* `SensorCollector.OsalPortTimers.initial` — the timers at the start.
* `SensorCollector.starts`, `SensorCollector.ends`, `SensorCollector.sets` — what a step does to the
  timer with a key.

## Main results

* `SensorCollector.timers_refine` — the timers are a table.
* `SensorCollector.timers_defined` — which steps are defined.
* `SensorCollector.timers_owned` — which entries and clocks are allocated.
* `SensorCollector.timers_accounted` — every timer that is started ends once or is still there.
* `SensorCollector.set_since_started` — no event is set for a timer that has ended.
-/

namespace SensorCollector

open EventMachine LinkedList Ownership

/-- The timers at the start. -/
def OsalPortTimers.initial : OsalPortTimers where
  heap _ := none
  clocks _ := none
  pTimerEntries := none
  pDeleteTimerEntries := none
  stackTaskID := 0
  stackEventID := 0
  cleanUp := .idle

/-- The entries of the first list are these timers. -/
def OsalPortTimers.Lists (s : OsalPortTimers) (timers : List Timer) : Prop :=
  ∃ live, Chain (timerField.link s.heap) s.pTimerEntries live ∧
    live.map (fun a => (s.heap a).map TimerEntry.timer) = timers.map some

/-- One step of the timers that has been taken. -/
abbrev TimerTransition := Transition OsalPortTimers TimerStep TimerOut

/-- The entries that have come to be never freed in a run. -/
def missedIn (tr : List TimerTransition) : List Addr := tr.flatMap fun u => missed u.pre u.event

variable {es : List TimerStep} {tr : List TimerTransition} {s : OsalPortTimers}

/-! ## The invariant -/

/-- At the start there is nothing. -/
theorem TimersAt.initial : TimersAt .initial [] [] [] where
  live_at := rfl
  info := by simp
  keys := List.nodup_nil
  clean_at := ⟨[], ⟨rfl, rfl⟩, by simp⟩
  owns := ⟨List.nodup_nil, fun a => by simp [OsalPortTimers.initial]⟩
  clocks := ⟨fun a handle timer h => by simp [timerInfo, OsalPortTimers.initial] at h,
    fun handle clock h => by simp [OsalPortTimers.initial] at h⟩

/-- The list of the timers is the table. -/
theorem TimersAt.lists {entries : List (Addr × Timer)} {dead lost : List Addr}
    (h : TimersAt s entries dead lost) : s.Lists (tableOf s entries).timers := by
  refine ⟨entries.map Prod.fst, h.live_at, ?_⟩
  rw [tableOf, List.map_map, List.map_map]
  refine List.map_congr_left fun r hr => ?_
  obtain ⟨handle, hinfo⟩ := h.info r hr
  obtain ⟨entry, hentry, -, htimer⟩ := exists_of_timerInfo hinfo
  simp [hentry, htimer]

/-- **The invariant of every run.** -/
theorem TimersAt.of_exec (hx : timersMachine.exec .initial es = some (tr, s)) :
    ∃ entries dead, TimersAt s entries dead (missedIn tr) := by
  refine timersMachine.exec_induction
    (P := fun _ tr s => ∃ entries dead, TimersAt s entries dead (missedIn tr))
    ⟨[], [], TimersAt.initial⟩ ?_ hx
  rintro es tr s e s' o - ⟨entries, dead, h⟩ hs
  obtain ⟨entries', dead', h', -⟩ := h.step hs
  exact ⟨entries', dead', by simpa [missedIn] using h'⟩

/-- A run with these outputs. -/
theorem exists_exec_of_outs {outs : List TimerOut}
    (h : (timersMachine.exec .initial es).map (fun r => r.1.map Transition.out) = some outs) :
    ∃ tr s, timersMachine.exec .initial es = some (tr, s) ∧ tr.map Transition.out = outs := by
  obtain ⟨r, hx, houts⟩ := Option.map_eq_some_iff.mp h
  exact ⟨r.1, r.2, hx, houts⟩

/-- Two timers that do not reload. The clock of the second one expires when the clean-up has read
the link of the last entry. -/
def sampleTimers : List TimerStep :=
  [.start 1 16 5 false (some 100) (some 200), .start 2 32 5 false (some 104) (some 204),
    .register 7 64, .expire 200, .cleanUp, .cleanUp, .expire 204, .cleanUp, .cleanUp]

/-- The run of these timers. -/
theorem exec_sampleTimers : ∃ tr s, timersMachine.exec .initial sampleTimers = some (tr, s) ∧
    tr.map Transition.out =
      [.status osalPortSuccess, .status osalPortSuccess, .done, .setEvents [(1, 16), (7, 64)],
        .done, .done, .setEvents [(2, 32), (7, 64)], .done, .done] :=
  exists_exec_of_outs (by decide +kernel)

/-! ## The timers are a table -/

/-- What is seen of a result. -/
def TimerOut.seen : TimerOut → List TimerOut
  | .done => []
  | o => [o]

/-- **The timers are a table.** Every run, with its lists, clocks and clean-up, is a run of the
table, with the same statuses, times and events; the list of the timers at the end is the table.

**Proof sketch.** By the comparison of runs from the one of single steps. -/
theorem timers_refine (hx : timersMachine.exec .initial es = some (tr, s)) :
    ∃ trTable table,
      timerTable.exec ⟨[], (0, 0)⟩ (tr.filterMap fun u => tableStep u.pre u.event) =
        some (trTable, table) ∧
      s.Lists table.timers ∧ s.stack = table.stack ∧
      (trTable.flatMap fun u => u.out.seen) = tr.flatMap fun u => u.out.seen := by
  let R (s : OsalPortTimers) (table : TimerTable) : Prop :=
    ∃ entries dead lost, TimersAt s entries dead lost ∧ table = tableOf s entries
  have hrun : ∃ trTable table,
      timerTable.exec ⟨[], (0, 0)⟩ (tr.filterMap fun u => tableStep u.pre u.event) =
        some (trTable, table) ∧ R s table ∧
      (trTable.flatMap fun u => u.out.seen) = tr.flatMap fun u => u.out.seen := by
    refine exec_of_abstracts (R := R) (f := tableStep) ?_ ⟨[], [], [], TimersAt.initial, rfl⟩ hx
    rintro s e s' o table ⟨entries, dead, lost, h, rfl⟩ hs
    obtain ⟨entries', dead', h', hdoes⟩ := h.step hs
    cases htable : tableStep s e with
    | none =>
      rw [htable] at hdoes
      obtain ⟨hsame, rfl⟩ := hdoes
      exact ⟨⟨entries', dead', _, h', hsame.symm⟩, rfl⟩
    | some e' =>
      rw [htable] at hdoes
      exact ⟨_, o, hdoes, ⟨entries', dead', _, h', rfl⟩, rfl⟩
  obtain ⟨trTable, table, hxTable, ⟨entries, dead, lost, h, rfl⟩, hseen⟩ := hrun
  exact ⟨trTable, tableOf s entries, hxTable, h.lists, rfl, hseen⟩

/-- The table of two timers. -/
theorem timers_refine_sample : ∃ tr s trTable table,
    timersMachine.exec .initial sampleTimers = some (tr, s) ∧
      timerTable.exec ⟨[], (0, 0)⟩ (tr.filterMap fun u => tableStep u.pre u.event) =
        some (trTable, table) ∧
      s.Lists table.timers ∧ s.stack = table.stack ∧
      (trTable.flatMap fun u => u.out.seen) = tr.flatMap fun u => u.out.seen := by
  obtain ⟨tr, s, hx, -⟩ := exec_sampleTimers
  obtain ⟨trTable, table, h⟩ := timers_refine hx
  exact ⟨tr, s, trTable, table, hx, h⟩

/-! ## What is defined -/

/-- **Which steps are defined.** The clean-up always is, and while it does not run, so is all else:
the functions on timers, and the expiry of every active clock. During the clean-up the expiry of the
clock of a timer that does not reload is defined as long as the head of the second list is not
freed. -/
theorem timers_defined (hx : timersMachine.exec .initial es = some (tr, s)) :
    (timersMachine.step s .cleanUp).isSome ∧
      (s.cleanUp = .idle →
        (∀ taskId eventId timeout reload block clock, IsVacant s.heap block →
          IsVacant s.clocks clock →
          (timersMachine.step s (.start taskId eventId timeout reload block clock)).isSome) ∧
        (∀ taskId eventId, (timersMachine.step s (.stop taskId eventId)).isSome) ∧
        (∀ taskId eventId timeoutTicks,
          (timersMachine.step s (.getTimeout taskId eventId timeoutTicks)).isSome) ∧
        ∀ a ∈ s.pDeleteTimerEntries, (s.heap a).isSome) ∧
      ∀ handle clock, s.clocks handle = some clock → clock.active = true →
        ∃ entry, s.heap clock.arg = some entry ∧
          ((timersMachine.step s (.expire handle)).isSome ↔
            entry.reload = true ∨ ∀ a ∈ s.pDeleteTimerEntries, (s.heap a).isSome) := by
  obtain ⟨entries, dead, h⟩ := TimersAt.of_exec hx
  refine ⟨?_, fun hidle => ⟨?_, ?_, ?_, ?_⟩, ?_⟩
  · obtain ⟨s', -, hclean, -⟩ := h.cleanUp
    simp [timersMachine, hclean]
  · intro taskId eventId timeout reload block clock hblock hclock
    obtain ⟨s', o, hs, -⟩ := h.step_start taskId eventId timeout reload hidle hblock hclock
    rw [hs, Option.isSome_some]
  · intro taskId eventId
    obtain ⟨s', o, hs, -⟩ := h.step_stop taskId eventId hidle
    rw [hs, Option.isSome_some]
  · intro taskId eventId timeoutTicks
    obtain ⟨s', o, hs, -⟩ := h.step_getTimeout taskId eventId timeoutTicks hidle
    rw [hs, Option.isSome_some]
  · obtain ⟨pend, hclean, -⟩ := h.clean_at
    rw [hidle] at hclean
    intro a ha
    obtain ⟨rfl, hchain⟩ := hclean
    rw [ha] at hchain
    obtain ⟨rest, next, hcons, hlink, -⟩ := hchain.exists_cons
    obtain ⟨entry, hentry, -⟩ := Option.map_eq_some_iff.mp hlink
    rw [hentry, Option.isSome_some]
  · intro handle clock hclock hactive
    obtain ⟨-, -, -, entry, -, hentry, -⟩ := h.entry_of_active hclock hactive
    refine ⟨entry, hentry, ?_⟩
    obtain ⟨hc, s', o, hs, -⟩ | ⟨hc, hnone⟩ := h.step_expire hclock hactive hentry
    · rw [hs, Option.isSome_some]
      exact iff_of_true rfl hc
    · rw [hnone, Option.isSome_none]
      exact iff_of_false Bool.false_ne_true hc

/-- The clean-up of two timers. -/
theorem timers_defined_sample : ∃ tr s, timersMachine.exec .initial sampleTimers = some (tr, s) ∧
    (timersMachine.step s .cleanUp).isSome := by
  obtain ⟨tr, s, hx, -⟩ := exec_sampleTimers
  exact ⟨tr, s, hx, (timers_defined hx).1⟩

-- a clock expires when the head of the second list is freed
example : timersMachine.exec .initial
    [.start 1 16 5 false (some 100) (some 200), .start 2 32 5 false (some 104) (some 204),
      .expire 200, .cleanUp, .cleanUp, .cleanUp, .expire 204] = none := by
  decide +kernel

/-- **Which entries and clocks are allocated.** The entries are those of the timers, those that wait
to be freed, and those that the clean-up has missed, each once; every entry has a clock of its own,
and there are no other clocks. Those that wait are the second list, and while the clean-up runs the
part of it that is not freed yet; what has been put behind this part is missed. -/
theorem timers_owned (hx : timersMachine.exec .initial es = some (tr, s)) :
    ∃ live dead, Chain (timerField.link s.heap) s.pTimerEntries live ∧
      (∃ pend, CleanAt s.heap s.pDeleteTimerEntries s.cleanUp dead pend ∧
        ∀ a ∈ pend, a ∈ missedIn tr) ∧
      Owns s.heap (live ++ (dead ++ missedIn tr)) ∧
      (∀ a entry, s.heap a = some entry →
        ∃ clock, s.clocks entry.clockHandle = some clock ∧ clock.arg = a) ∧
      ∀ handle clock, s.clocks handle = some clock →
        ∃ entry, s.heap clock.arg = some entry ∧ entry.clockHandle = handle := by
  obtain ⟨entries, dead, h⟩ := TimersAt.of_exec hx
  refine ⟨entries.map Prod.fst, dead, h.live_at, h.clean_at, h.owns, ?_, ?_⟩
  · intro a entry hentry
    obtain ⟨clock, hclock, harg, -⟩ := h.clocks.clock a entry.clockHandle entry.timer
      (by rw [timerInfo, hentry, Option.map_some])
    exact ⟨clock, hclock, harg⟩
  · intro handle clock hclock
    obtain ⟨timer, hinfo⟩ := h.clocks.arg handle clock hclock
    obtain ⟨entry, hentry, hhandle, -⟩ := exists_of_timerInfo hinfo
    exact ⟨entry, hentry, hhandle⟩

/-- The entry of the second one of two timers is left. -/
theorem timers_owned_sample : ∃ tr s live dead,
    timersMachine.exec .initial sampleTimers = some (tr, s) ∧
      Owns s.heap (live ++ (dead ++ missedIn tr)) ∧ missedIn tr = [104] := by
  have hmissed : (timersMachine.exec .initial sampleTimers).map (fun r => missedIn r.1) =
      some [104] := by decide +kernel
  obtain ⟨⟨tr, s⟩, hx, hmissed⟩ := Option.map_eq_some_iff.mp hmissed
  obtain ⟨live, dead, -, -, howns, -⟩ := timers_owned hx
  exact ⟨tr, s, live, dead, hx, howns, hmissed⟩

/-! ## The life of a timer -/

/-- A step starts a timer with this key, with success. -/
def starts (key : SetEvent) (u : TimerTransition) : Bool :=
  match u.event, u.out with
  | .start taskId eventId _ _ _ _, .status status =>
    decide ((taskId, eventId) = key ∧ status = osalPortSuccess)
  | _, _ => false

/-- A step ends the timer with this key: it stops it with success, or its clock expires and it does
not reload. -/
def ends (key : SetEvent) (u : TimerTransition) : Bool :=
  match u.event, u.out with
  | .stop taskId eventId, .status status =>
    decide ((taskId, eventId) = key ∧ status = osalPortSuccess)
  | .expire _, .setEvents [timerKey, _] => decide (timerKey = key)
  | _, _ => false

/-- A step sets the event of the timer with this key: its clock expires. An event with the same key
that is registered for the clean-up, and that any expiry sets, does not count. -/
def sets (key : SetEvent) (u : TimerTransition) : Bool :=
  match u.out with
  | .setEvents (timerKey :: _) => decide (timerKey = key)
  | _ => false

/-- What is done to the timers by an expiry, if anything, is that a timer expires. -/
theorem tableStep_expire (s : OsalPortTimers) (handle : Addr) :
    tableStep s (.expire handle) = none ∨
      ∃ key, tableStep s (.expire handle) = some (.expire key) := by
  cases htable : tableStep s (.expire handle) with
  | none => exact Or.inl rfl
  | some e =>
    obtain ⟨clock, -, hmap⟩ := Option.bind_eq_some_iff.mp htable
    obtain ⟨entry, -, rfl⟩ := Option.map_eq_some_iff.mp hmap
    exact Or.inr ⟨entry.timer.key, rfl⟩

namespace TimerTable

variable {table table' : TimerTable}

/-- The keys of the timers. -/
def keys (table : TimerTable) : List SetEvent := table.timers.map Timer.key

/-- The keys without the timer with a key. -/
theorem keys_remove (table : TimerTable) (key : SetEvent) :
    (table.remove key).keys = table.keys.erase key := by
  rw [keys, keys, List.erase_eq_eraseP, List.eraseP_map]
  congr 1
  refine congrArg (fun p => table.timers.eraseP p) (funext fun timer => ?_)
  by_cases hkey : timer.key = key
  · simp [hkey]
  · simp [hkey, Ne.symm hkey]

/-- A timer that is found is one with the key. -/
theorem mem_keys_of_find {key : SetEvent} {timer : Timer} (h : table.find key = some timer) :
    key ∈ table.keys := by
  refine List.mem_map.mpr ⟨timer, List.mem_of_find?_eq_some h, ?_⟩
  simpa using List.find?_some h

/-- A timer is taken out. -/
theorem count_remove {key : SetEvent} {timer : Timer} (h : table.find key = some timer)
    (key' : SetEvent) :
    (if key = key' then 1 else 0) + (table.remove key).keys.count key' =
      table.keys.count key' := by
  rw [keys_remove, List.count_erase]
  by_cases heq : key = key'
  · subst heq
    have hpos := List.count_pos_iff.mpr (mem_keys_of_find h)
    simp only [if_true, beq_self_eq_true]
    omega
  · simp [heq]

/-- A timer is started with success and added, or nothing is changed. -/
theorem start_cases (table : TimerTable) (timer : Timer) (enough : Bool) :
    table.start timer enough =
        ({ table with timers := table.timers ++ [timer] }, osalPortSuccess) ∨
      table.start timer enough = (table, osalPortNoTimerAvail) := by
  unfold start
  split
  · exact Or.inl rfl
  · exact Or.inr rfl

/-- A timer is stopped with success and taken out, or nothing is changed. -/
theorem stop_cases (table : TimerTable) (key : SetEvent) :
    (∃ timer, table.find key = some timer ∧
        table.stop key = (table.remove key, osalPortSuccess)) ∨
      table.stop key = (table, osalPortInvalidParameter) := by
  unfold stop
  split
  · exact Or.inr rfl
  · exact Or.inl ⟨_, ‹_›, rfl⟩

variable {s s' : OsalPortTimers} {e : TimerStep} {o : TimerOut}

/-- **One step of the account**: a timer is started and is there, or ends and is there no longer.

**Proof sketch.** One case for each function, and in each whether the timer is in the table. -/
theorem Does.count (h : table.Does (tableStep s e) table' o) (s' : OsalPortTimers)
    (key : SetEvent) :
    (if starts key ⟨s, e, o, s'⟩ then 1 else 0) + table.keys.count key =
      (if ends key ⟨s, e, o, s'⟩ then 1 else 0) + table'.keys.count key := by
  cases e with
  | start taskId eventId timeout reload block clock =>
    simp only [Does, tableStep, timerTable, Option.some.injEq, Prod.mk.injEq] at h
    obtain ⟨rfl, rfl⟩ := h
    simp only [starts, ends]
    obtain hstart | hstart :=
      table.start_cases ⟨taskId, eventId, reload⟩ (block.isSome && clock.isSome)
    · rw [hstart]
      simp only [keys, List.map_append, List.count_append, List.map_cons, List.map_nil, Timer.key,
        List.count_singleton]
      by_cases hkey : (taskId, eventId) = key
      · simp [hkey, Nat.add_comm]
      · simp [hkey]
    · rw [hstart]
      simp [osalPortNoTimerAvail, osalPortSuccess]
  | stop taskId eventId =>
    simp only [Does, tableStep, timerTable, Option.some.injEq, Prod.mk.injEq] at h
    obtain ⟨rfl, rfl⟩ := h
    simp only [starts, ends]
    obtain ⟨timer, hfind, hstop⟩ | hstop := table.stop_cases (taskId, eventId)
    · rw [hstop]
      simpa using (count_remove hfind key).symm
    · rw [hstop]
      simp [osalPortInvalidParameter, osalPortSuccess]
  | getTimeout taskId eventId timeoutTicks =>
    simp only [Does, tableStep, timerTable, Option.some.injEq, Prod.mk.injEq] at h
    obtain ⟨rfl, rfl⟩ := h
    rfl
  | register taskID eventID =>
    simp only [Does, tableStep, timerTable, Option.some.injEq, Prod.mk.injEq] at h
    obtain ⟨rfl, rfl⟩ := h
    rfl
  | cleanUp =>
    obtain ⟨rfl, rfl⟩ := h
    rfl
  | expire handle =>
    obtain htable | ⟨timerKey, htable⟩ := tableStep_expire s handle
    · rw [htable] at h
      obtain ⟨rfl, rfl⟩ := h
      rfl
    · rw [htable] at h
      obtain ⟨r, hexpire, heq⟩ := Option.map_eq_some_iff.mp h
      obtain ⟨rfl, rfl⟩ := Prod.mk.inj heq
      obtain ⟨timer, hfind, rfl⟩ := Option.map_eq_some_iff.mp hexpire
      cases timer.reload with
      | true => rfl
      | false => simpa [starts, ends] using (count_remove hfind key).symm

/-- **An event is set for a timer that is there.** -/
theorem Does.mem_keys (h : table.Does (tableStep s e) table' o) {key : SetEvent}
    (hsets : sets key ⟨s, e, o, s'⟩ = true) : key ∈ table.keys := by
  cases e with
  | expire handle =>
    obtain htable | ⟨timerKey, htable⟩ := tableStep_expire s handle
    · rw [htable] at h
      obtain ⟨rfl, rfl⟩ := h
      cases hsets
    · rw [htable] at h
      obtain ⟨r, hexpire, heq⟩ := Option.map_eq_some_iff.mp h
      obtain ⟨rfl, rfl⟩ := Prod.mk.inj heq
      obtain ⟨timer, hfind, rfl⟩ := Option.map_eq_some_iff.mp hexpire
      have hkey : timerKey = key := by
        cases hreload : timer.reload <;> simpa [sets, hreload] using hsets
      exact hkey ▸ mem_keys_of_find hfind
  | start taskId eventId timeout reload block clock =>
    obtain ⟨rfl, rfl⟩ := Prod.mk.inj (Option.some.inj h)
    cases hsets
  | stop taskId eventId =>
    obtain ⟨rfl, rfl⟩ := Prod.mk.inj (Option.some.inj h)
    cases hsets
  | getTimeout taskId eventId timeoutTicks =>
    obtain ⟨rfl, rfl⟩ := Prod.mk.inj (Option.some.inj h)
    cases hsets
  | register taskID eventID =>
    obtain ⟨rfl, rfl⟩ := Prod.mk.inj (Option.some.inj h)
    cases hsets
  | cleanUp =>
    obtain ⟨-, rfl⟩ := h
    cases hsets

end TimerTable

/-- **The account of a run**: the invariant, and what has become of the timers that were started. -/
theorem TimersAt.count (hx : timersMachine.exec .initial es = some (tr, s)) :
    ∃ entries dead, TimersAt s entries dead (missedIn tr) ∧
      ∀ key, tr.countP (starts key) =
        tr.countP (ends key) + (tableOf s entries).keys.count key := by
  refine timersMachine.exec_induction
    (P := fun _ tr s => ∃ entries dead, TimersAt s entries dead (missedIn tr) ∧
      ∀ key, tr.countP (starts key) = tr.countP (ends key) + (tableOf s entries).keys.count key)
    ⟨[], [], TimersAt.initial, fun _ => rfl⟩ ?_ hx
  rintro es tr s e s' o - ⟨entries, dead, h, hcount⟩ hs
  obtain ⟨entries', dead', h', hdoes⟩ := h.step hs
  refine ⟨entries', dead', by simpa [missedIn] using h', fun key => ?_⟩
  have hstep := hdoes.count s' key
  have hbefore := hcount key
  rw [List.countP_append, List.countP_append, List.countP_singleton, List.countP_singleton]
  omega

/-- The timers have different keys. -/
theorem TimersAt.nodup_keys {entries : List (Addr × Timer)} {dead lost : List Addr}
    (h : TimersAt s entries dead lost) : (tableOf s entries).keys.Nodup := by
  simpa [TimerTable.keys, tableOf, Function.comp_def] using h.keys

/-- What ends a timer does not start it. -/
theorem not_starts_of_ends {key : SetEvent} {u : TimerTransition} (h : ends key u = true) :
    starts key u = false := by
  obtain ⟨pre, event, out, post⟩ := u
  cases event <;> first | rfl | cases h

/-- **What becomes of the timers.** In every run and for every key, the timers that were started
with success are those that have ended, by their only expiry or by a stop, and the one that is in
the list, if there is one: there are never two with one key.

**Proof sketch.** The account of the run, over the table. -/
theorem timers_accounted (hx : timersMachine.exec .initial es = some (tr, s)) :
    ∃ timers, s.Lists timers ∧ (timers.map Timer.key).Nodup ∧
      ∀ key, tr.countP (starts key) =
        tr.countP (ends key) + if key ∈ timers.map Timer.key then 1 else 0 := by
  obtain ⟨entries, dead, h, hcount⟩ := TimersAt.count hx
  refine ⟨_, h.lists, h.nodup_keys, fun key => ?_⟩
  rw [hcount key, List.Nodup.count h.nodup_keys]
  rfl

/-- What becomes of two timers. -/
theorem timers_accounted_sample : ∃ tr s timers,
    timersMachine.exec .initial sampleTimers = some (tr, s) ∧ s.Lists timers ∧
      ∀ key, tr.countP (starts key) =
        tr.countP (ends key) + if key ∈ timers.map Timer.key then 1 else 0 := by
  obtain ⟨tr, s, hx, -⟩ := exec_sampleTimers
  obtain ⟨timers, hlists, -, hcount⟩ := timers_accounted hx
  exact ⟨tr, s, timers, hx, hlists, hcount⟩

/-- **No event is set for a timer that has ended.** After a timer has been stopped with success, or
has expired and does not reload, no clock sets its event as that of its timer until it is started
with success again.

**Proof sketch.** The two accounts, after the end and before the event, differ by one start. -/
theorem set_since_started {tr₁ mid tr₂ : List TimerTransition} {t u : TimerTransition}
    (hx : timersMachine.exec .initial es = some (tr₁ ++ t :: (mid ++ u :: tr₂), s))
    {key : SetEvent} (hends : ends key t = true) (hsets : sets key u = true) :
    ∃ v ∈ mid, starts key v = true := by
  obtain ⟨hx₁, -⟩ := timersMachine.exec_split hx
  have heq : tr₁ ++ t :: (mid ++ u :: tr₂) = (tr₁ ++ t :: mid) ++ u :: tr₂ := by simp
  rw [heq] at hx
  obtain ⟨hx₂, hs⟩ := timersMachine.exec_split hx
  obtain ⟨entries₁, dead₁, h₁, hcount₁⟩ := TimersAt.count hx₁
  obtain ⟨entries₂, dead₂, h₂, hcount₂⟩ := TimersAt.count hx₂
  -- there was at most one timer with the key before the end, and there is one before the event
  have hone : (tableOf t.pre entries₁).keys.count key ≤ 1 :=
    List.nodup_iff_count_le_one.mp h₁.nodup_keys key
  have hthere : 0 < (tableOf u.pre entries₂).keys.count key := by
    obtain ⟨entries', dead', -, hdoes⟩ := h₂.step hs
    exact List.count_pos_iff.mpr (hdoes.mem_keys hsets)
  have hbefore := hcount₁ key
  have hafter := hcount₂ key
  rw [List.countP_append, List.countP_append, List.countP_cons_of_pos hends,
    List.countP_cons_of_neg (by simp [not_starts_of_ends hends])] at hafter
  refine List.countP_pos_iff.mp ?_
  omega

/-- A timer that expires, is started again and expires again. -/
theorem set_since_started_again : ∃ tr₁ t mid u tr₂ s,
    timersMachine.exec .initial
        [.start 1 16 5 false (some 100) (some 200), .expire 200,
          .start 1 16 5 false (some 104) (some 204), .expire 204] =
      some (tr₁ ++ t :: (mid ++ u :: tr₂), s) ∧
      ends (1, 16) t = true ∧ sets (1, 16) u = true ∧ ∃ v ∈ mid, starts (1, 16) v = true := by
  have houts : (timersMachine.exec .initial
      [.start 1 16 5 false (some 100) (some 200), .expire 200,
        .start 1 16 5 false (some 104) (some 204), .expire 204]).map
      (fun r => r.1.map fun u => (ends (1, 16) u, sets (1, 16) u)) =
      some [(false, false), (true, true), (false, false), (true, true)] := by decide +kernel
  obtain ⟨⟨tr, s⟩, hx, hflags⟩ := Option.map_eq_some_iff.mp houts
  simp only [List.map_eq_cons_iff, List.map_eq_nil_iff, Prod.mk.injEq] at hflags
  obtain ⟨t₁, -, rfl, -, t, -, rfl, ⟨hends, -⟩, t₃, -, rfl, -, u, -, rfl, ⟨-, hsets⟩, rfl⟩ := hflags
  have hx' : timersMachine.exec .initial _ = some ([t₁] ++ t :: ([t₃] ++ u :: []), s) := hx
  exact ⟨[t₁], t, [t₃], u, [], s, hx, hends, hsets, set_since_started hx' hends hsets⟩

end SensorCollector
