import SensorCollector.Timers.Steps

set_option relaxedAutoImplicit false
set_option autoImplicit false

/-!
# The table of the timers

The timers are a table: which timers there are, by their keys. All that is done to them is done to
this table, with the same results and the same events; the lists, the clocks and the clean-up are
not seen.

## Main definitions

* `SensorCollector.TimerTable`, `SensorCollector.timerTable` — the table, as a machine.
* `SensorCollector.tableStep` — what a step does to the table.
* `SensorCollector.missed` — the entries that will never be freed after a step.

## Main results

* `SensorCollector.TimersAt.step_expire` — when the expiry of a clock is defined.
* `SensorCollector.TimersAt.step` — one step.
-/

namespace SensorCollector

open EventMachine LinkedList Ownership

/-! ## The table -/

/-- The timers, and the event of the clean-up. -/
structure TimerTable where
  timers : List Timer
  stack : SetEvent
  deriving DecidableEq

/-- What is done to the table. -/
inductive TableStep
  /-- A timer is started. There may not be enough memory. -/
  | start (timer : Timer) (enough : Bool)
  | stop (key : SetEvent)
  | getTimeout (key : SetEvent) (timeoutTicks : UInt32)
  | register (stack : SetEvent)
  | expire (key : SetEvent)
  deriving DecidableEq

namespace TimerTable

variable (table : TimerTable)

/-- The timer with a key. -/
def find (key : SetEvent) : Option Timer := table.timers.find? fun timer => timer.key = key

/-- The table without the timer with a key. -/
def remove (key : SetEvent) : TimerTable :=
  { table with timers := table.timers.eraseP fun timer => timer.key = key }

/-- A timer is started: if there is one with its key, it is started again and the status is not
success. -/
def start (timer : Timer) (enough : Bool) : TimerTable × UInt8 :=
  match table.find timer.key, enough with
  | none, true => ({ table with timers := table.timers ++ [timer] }, osalPortSuccess)
  | _, _ => (table, osalPortNoTimerAvail)

/-- A timer is stopped. -/
def stop (key : SetEvent) : TimerTable × UInt8 :=
  match table.find key with
  | none => (table, osalPortInvalidParameter)
  | some _ => (table.remove key, osalPortSuccess)

/-- The time that a timer has left, in milliseconds. -/
def getTimeout (key : SetEvent) (timeoutTicks : UInt32) : UInt32 :=
  match table.find key with
  | none => 0
  | some _ => timeoutTicks / (1000 / clockTickPeriod)

/-- A timer expires. It stays in the table if it reloads. -/
def expire (key : SetEvent) : Option (TimerTable × List SetEvent) :=
  (table.find key).map fun timer =>
    if timer.reload then (table, [key]) else (table.remove key, [key, table.stack])

end TimerTable

/-- The table as a machine. -/
def timerTable : EventMachine TimerTable TableStep TimerOut where
  step table
    | .start timer enough =>
      some ((table.start timer enough).1, .status (table.start timer enough).2)
    | .stop key => some ((table.stop key).1, .status (table.stop key).2)
    | .getTimeout key timeoutTicks => some (table, .timeout (table.getTimeout key timeoutTicks))
    | .register stack => some ({ table with stack := stack }, .done)
    | .expire key => (table.expire key).map fun r => (r.1, .setEvents r.2)

/-! ## One step -/

/-- What a step does to the table. The clean-up does nothing to it. -/
def tableStep (s : OsalPortTimers) : TimerStep → Option TableStep
  | .start taskId eventId _ reload block clock =>
    some (.start ⟨taskId, eventId, reload⟩ (block.isSome && clock.isSome))
  | .stop taskId eventId => some (.stop (taskId, eventId))
  | .getTimeout taskId eventId timeoutTicks => some (.getTimeout (taskId, eventId) timeoutTicks)
  | .register taskID eventID => some (.register (taskID, eventID))
  | .expire clockHandle =>
    (s.clocks clockHandle).bind fun clock =>
      (s.heap clock.arg).map fun entry => .expire entry.timer.key
  | .cleanUp => none

/-- What is done to a table by a step, if anything. -/
def TimerTable.Does (table : TimerTable) (e : Option TableStep) (table' : TimerTable)
    (o : TimerOut) : Prop :=
  match e with
  | none => table' = table ∧ o = .done
  | some e => timerTable.step table e = some (table', o)

/-- The entry that will never be freed after a step: its timer has expired after the clean-up has
read the link of its last entry. -/
def missed (s : OsalPortTimers) : TimerStep → List Addr
  | .expire clockHandle =>
    ((s.clocks clockHandle).bind fun clock =>
      (s.heap clock.arg).bind fun entry =>
        if entry.reload = false ∧ s.cleanUp.misses then some clock.arg else none).toList
  | _ => []

/-- The table of the timers. -/
def tableOf (s : OsalPortTimers) (entries : List (Addr × Timer)) : TimerTable :=
  ⟨entries.map Prod.snd, s.stack⟩

section Table

variable {s : OsalPortTimers} {entries : List (Addr × Timer)} {key : SetEvent}

/-- There is no timer with a key in the table. -/
theorem find_tableOf_none (hkey : ∀ r ∈ entries, r.2.key ≠ key) :
    (tableOf s entries).find key = none := by
  simp only [tableOf, TimerTable.find, List.find?_eq_none, List.mem_map]
  rintro timer ⟨r, hr, rfl⟩
  simpa using hkey r hr

/-- The timers before one with a key have other keys. -/
theorem key_ne_before {as bs : List (Addr × Timer)} {a : Addr} {timer : Timer}
    (hkeys : ((as ++ (a, timer) :: bs).map fun r => r.2.key).Nodup) :
    ∀ t ∈ as.map Prod.snd, t.key ≠ timer.key := by
  intro t ht heq
  obtain ⟨r, hr, rfl⟩ := List.mem_map.mp ht
  rw [List.map_append, List.map_cons, List.nodup_append] at hkeys
  exact hkeys.2.2 r.2.key (List.mem_map.mpr ⟨r, hr, rfl⟩) timer.key (by simp) heq

/-- The timer with a key in the table. -/
theorem find_tableOf_some {as bs : List (Addr × Timer)} {a : Addr} {timer : Timer}
    (hkeys : ((as ++ (a, timer) :: bs).map fun r => r.2.key).Nodup) :
    (tableOf s (as ++ (a, timer) :: bs)).find timer.key = some timer := by
  rw [TimerTable.find, tableOf, List.map_append, List.map_cons, List.find?_append,
    List.find?_eq_none.mpr (by simpa using key_ne_before hkeys), Option.none_or,
    List.find?_cons_of_pos (by simp)]

/-- The table without the timer with a key. -/
theorem remove_tableOf {as bs : List (Addr × Timer)} {a : Addr} {timer : Timer}
    (hkeys : ((as ++ (a, timer) :: bs).map fun r => r.2.key).Nodup) :
    (tableOf s (as ++ (a, timer) :: bs)).remove timer.key = tableOf s (as ++ bs) := by
  rw [TimerTable.remove, tableOf, tableOf, List.map_append, List.map_cons,
    List.eraseP_append_right _ (by simpa using key_ne_before hkeys),
    List.eraseP_cons_of_pos (by simp), List.map_append]

end Table

namespace TimersAt

variable {s : OsalPortTimers} {entries : List (Addr × Timer)} {dead lost : List Addr}

/-- What holds after a step: the invariant, and what has been done to the table. -/
def After (s : OsalPortTimers) (entries : List (Addr × Timer)) (lost : List Addr) (e : TimerStep)
    (s' : OsalPortTimers) (o : TimerOut) : Prop :=
  ∃ entries' dead', TimersAt s' entries' dead' (lost ++ missed s e) ∧
    (tableOf s entries).Does (tableStep s e) (tableOf s' entries') o

/-- The table with another list of timers. -/
theorem tableOf_congr {s' : OsalPortTimers} (hstack : s'.stack = s.stack)
    (entries : List (Addr × Timer)) : tableOf s' entries = tableOf s entries := by
  rw [tableOf, tableOf, hstack]

/-- **A timer is started.** -/
theorem step_start (h : TimersAt s entries dead lost) (taskId : UInt8)
    (eventId timeout : UInt32) (reload : Bool) {block clock : Option Addr}
    (hidle : s.cleanUp = .idle) (hblock : IsVacant s.heap block)
    (hclock : IsVacant s.clocks clock) :
    ∃ s' o, timersMachine.step s (.start taskId eventId timeout reload block clock) =
        some (s', o) ∧
      After s entries lost (.start taskId eventId timeout reload block clock) s' o := by
  have hstep : timersMachine.step s (.start taskId eventId timeout reload block clock) =
      (s.createTimerEntry taskId eventId timeout reload block clock).map fun r =>
        (r.1, .status r.2) := by
    simp only [timersMachine, if_pos (And.intro hidle (And.intro hblock hclock))]
    cases reload <;> rfl
  obtain ⟨hget, hkey⟩ | ⟨as, a, timer, bs, rfl, hkey, hget⟩ :=
    h.getTimerEntry_cases taskId eventId
  · have hnone : (tableOf s entries).find (Timer.key ⟨taskId, eventId, reload⟩) = none :=
      find_tableOf_none hkey
    have hfail (hcreate : s.createTimerEntry taskId eventId timeout reload block clock =
        some (s, osalPortNoTimerAvail)) (henough : (block.isSome && clock.isSome) = false) :
        ∃ s' o, timersMachine.step s (.start taskId eventId timeout reload block clock) =
            some (s', o) ∧
          After s entries lost (.start taskId eventId timeout reload block clock) s' o := by
      refine ⟨s, _, by rw [hstep, hcreate]; rfl, entries, dead, by simpa [missed] using h, ?_⟩
      simp only [TimerTable.Does, tableStep, timerTable, TimerTable.start, hnone, henough]
    cases block with
    | none =>
      refine hfail ?_ rfl
      simp only [OsalPortTimers.createTimerEntry, hget, Option.bind_eq_bind, Option.bind_some]
      rfl
    | some a =>
      cases clock with
      | none =>
        refine hfail ?_ rfl
        simp only [OsalPortTimers.createTimerEntry, hget, Option.bind_eq_bind, Option.bind_some]
        rfl
      | some handle =>
        obtain ⟨s', hcreate, h', hstack⟩ := h.create_new hidle hget hkey timeout reload
          (hblock a rfl) (hclock handle rfl)
        refine ⟨s', _, by rw [hstep, hcreate]; rfl, _, dead, by simpa [missed] using h', ?_⟩
        simp only [TimerTable.Does, tableStep, timerTable, TimerTable.start, hnone,
          Option.isSome_some, Bool.and_self]
        simp [tableOf, hstack]
  · obtain ⟨s', hcreate, h', hstack⟩ := h.create_existing
      (List.mem_append_right as List.mem_cons_self) hget timeout reload block clock
    refine ⟨s', _, by rw [hstep, hcreate]; rfl, _, dead, by simpa [missed] using h', ?_⟩
    have hsome : (tableOf s (as ++ (a, timer) :: bs)).find (Timer.key ⟨taskId, eventId, reload⟩) =
        some timer := by
      have hkey' : Timer.key ⟨taskId, eventId, reload⟩ = timer.key := hkey.symm
      rw [hkey']
      exact find_tableOf_some h.keys
    simp only [TimerTable.Does, tableStep, timerTable, TimerTable.start, hsome,
      tableOf_congr hstack]

/-- **A timer is stopped.** -/
theorem step_stop (h : TimersAt s entries dead lost) (taskId : UInt8) (eventId : UInt32)
    (hidle : s.cleanUp = .idle) :
    ∃ s' o, timersMachine.step s (.stop taskId eventId) = some (s', o) ∧
      After s entries lost (.stop taskId eventId) s' o := by
  obtain ⟨hget, hkey⟩ | ⟨as, a, timer, bs, rfl, hkey, hget⟩ :=
    h.getTimerEntry_cases taskId eventId
  · have hstop : s.stopTimer taskId eventId = some (s, osalPortInvalidParameter) := by
      simp only [OsalPortTimers.stopTimer, hget, Option.bind_eq_bind, Option.bind_some]
      rfl
    refine ⟨s, .status osalPortInvalidParameter, ?_, entries, dead, by simpa [missed] using h, ?_⟩
    · simp only [timersMachine, if_pos hidle, hstop, Option.map_some]
    · simp only [TimerTable.Does, tableStep, timerTable, TimerTable.stop, find_tableOf_none hkey]
  · obtain ⟨s', hstop, h', hstack⟩ := h.stop hidle hget
    refine ⟨s', .status osalPortSuccess, ?_, as ++ bs, dead, by simpa [missed] using h', ?_⟩
    · simp only [timersMachine, if_pos hidle, hstop, Option.map_some]
    · simp only [TimerTable.Does, tableStep, timerTable, TimerTable.stop, ← hkey,
        find_tableOf_some h.keys, remove_tableOf h.keys, tableOf_congr hstack]

/-- **The time a timer has left is read.** -/
theorem step_getTimeout (h : TimersAt s entries dead lost) (taskId : UInt8)
    (eventId timeoutTicks : UInt32) (hidle : s.cleanUp = .idle) :
    ∃ s' o, timersMachine.step s (.getTimeout taskId eventId timeoutTicks) = some (s', o) ∧
      After s entries lost (.getTimeout taskId eventId timeoutTicks) s' o := by
  refine ⟨s, .timeout ((tableOf s entries).getTimeout (taskId, eventId) timeoutTicks), ?_, entries,
    dead, by simpa [missed] using h, rfl⟩
  obtain ⟨hget, hkey⟩ | ⟨as, a, timer, bs, rfl, hkey, hget⟩ :=
    h.getTimerEntry_cases taskId eventId
  · have hleft : s.getTimerTimeout taskId eventId timeoutTicks = some 0 := by
      simp only [OsalPortTimers.getTimerTimeout, hget, Option.bind_eq_bind, Option.bind_some]
      rfl
    simp only [timersMachine, if_pos hidle, hleft, Option.map_some, TimerTable.getTimeout,
      find_tableOf_none hkey]
  · obtain ⟨entry, clock, hentry, -, -, hclock, -⟩ := h.entry_of_mem
      (List.mem_append_right as List.mem_cons_self)
    have hleft : s.getTimerTimeout taskId eventId timeoutTicks =
        some (timeoutTicks / (1000 / clockTickPeriod)) := by
      simp only [OsalPortTimers.getTimerTimeout, hget, hentry, hclock, Option.bind_eq_bind,
        Option.bind_some]
      rfl
    simp only [timersMachine, if_pos hidle, hleft, Option.map_some, TimerTable.getTimeout, ← hkey,
      find_tableOf_some h.keys]

/-- **An active clock expires.** It is defined unless its timer does not reload and the head of the
second list is freed already. -/
theorem step_expire (h : TimersAt s entries dead lost) {handle : Addr} {clock : ClockObject}
    (hclock : s.clocks handle = some clock) (hactive : clock.active = true) {entry : TimerEntry}
    (hentry : s.heap clock.arg = some entry) :
    ((entry.reload = true ∨ ∀ a ∈ s.pDeleteTimerEntries, (s.heap a).isSome) ∧
        ∃ s' o, timersMachine.step s (.expire handle) = some (s', o) ∧
          After s entries lost (.expire handle) s' o) ∨
      (¬ (entry.reload = true ∨ ∀ a ∈ s.pDeleteTimerEntries, (s.heap a).isSome) ∧
        timersMachine.step s (.expire handle) = none) := by
  obtain ⟨as, timer, bs, entry', rfl, hentry', rfl, hhandle, hinfo⟩ :=
    h.entry_of_active hclock hactive
  obtain rfl := Option.some.inj (hentry.symm.trans hentry')
  have htable : tableStep s (.expire handle) = some (.expire entry.timer.key) := by
    simp only [tableStep, hclock, hentry, Option.bind_some, Option.map_some]
  have hfind := find_tableOf_some (s := s) h.keys
  have hreloadEq : entry.timer.reload = entry.reload := rfl
  cases hreload : entry.reload with
  | true =>
    obtain ⟨s', hexpire, h', hstack⟩ := h.expire_reload hclock hactive hentry hreload
    left
    refine ⟨Or.inl rfl, s', .setEvents [entry.timer.key], ?_, as ++ (clock.arg, entry.timer) :: bs,
      dead, ?_, ?_⟩
    · simp only [timersMachine, hexpire, Option.map_some]
    · simpa [missed, hclock, hentry, hreload] using h'
    · rw [htable]
      simp only [TimerTable.Does, timerTable, TimerTable.expire, hfind, Option.map_some,
        hreloadEq, hreload, if_true, tableOf_congr hstack]
  | false =>
    have honce : entry.timer.reload = false := hreload
    by_cases hhead : ∀ a ∈ s.pDeleteTimerEntries, (s.heap a).isSome
    · left
      obtain ⟨s', hexpire, h', hstack⟩ := h.expire_once hclock hactive honce hhead
      have hlost : lost ++ missed s (.expire handle) =
          if s.cleanUp.misses then lost ++ [clock.arg] else lost := by
        simp only [missed, hclock, hentry, hreload, Option.bind_some, true_and]
        cases s.cleanUp.misses <;> simp
      rw [← hlost] at h'
      refine ⟨Or.inr hhead, s', .setEvents [entry.timer.key, s.stack], ?_, as ++ bs, _, h', ?_⟩
      · simp only [timersMachine, hexpire, Option.map_some]
      · rw [htable]
        simp only [TimerTable.Does, timerTable, TimerTable.expire, hfind, Option.map_some, honce,
          if_neg (show ¬ false = true by decide), remove_tableOf h.keys, tableOf_congr hstack]
        rfl
    · right
      refine ⟨by simpa using hhead, ?_⟩
      obtain ⟨head, hp, hfreed⟩ : ∃ head, s.pDeleteTimerEntries = some head ∧
          s.heap head = none := by
        simpa using hhead
      have hexpire := h.expire_eq_none hclock hactive honce hp hfreed
      simp only [timersMachine, hexpire, Option.map_none]

/-- **One step** keeps the invariant, and does to the table what it should.

**Proof sketch.** One case for each function. -/
theorem step (h : TimersAt s entries dead lost) {e : TimerStep} {s' : OsalPortTimers} {o : TimerOut}
    (hs : timersMachine.step s e = some (s', o)) : After s entries lost e s' o := by
  -- a step has one result
  have hunique (hstep : ∃ s₁ o₁, timersMachine.step s e = some (s₁, o₁) ∧
      After s entries lost e s₁ o₁) : After s entries lost e s' o := by
    obtain ⟨s₁, o₁, hs₁, hafter⟩ := hstep
    obtain ⟨rfl, rfl⟩ := Prod.mk.inj (Option.some.inj (hs.symm.trans hs₁))
    exact hafter
  cases e with
  | start taskId eventId timeout reload block clock =>
    by_cases hc : s.cleanUp = .idle ∧ IsVacant s.heap block ∧ IsVacant s.clocks clock
    · exact hunique (h.step_start taskId eventId timeout reload hc.1 hc.2.1 hc.2.2)
    · simp [timersMachine, if_neg hc] at hs
  | stop taskId eventId =>
    by_cases hc : s.cleanUp = .idle
    · exact hunique (h.step_stop taskId eventId hc)
    · simp [timersMachine, if_neg hc] at hs
  | getTimeout taskId eventId timeoutTicks =>
    by_cases hc : s.cleanUp = .idle
    · exact hunique (h.step_getTimeout taskId eventId timeoutTicks hc)
    · simp [timersMachine, if_neg hc] at hs
  | register taskID eventID =>
    by_cases hc : s.cleanUp = .idle
    · simp only [timersMachine, if_pos hc] at hs
      cases hs
      refine ⟨entries, dead, ?_, rfl⟩
      simpa [missed] using (⟨h.live_at, h.info, h.keys, h.clean_at, h.owns, h.clocks⟩ :
        TimersAt (s.registerCleanupEvent taskID eventID) entries dead lost)
    · simp [timersMachine, if_neg hc] at hs
  | expire handle =>
    cases hclock : s.clocks handle with
    | none => simp [timersMachine, OsalPortTimers.expire, hclock] at hs
    | some clock =>
      by_cases hactive : clock.active = true
      · obtain ⟨-, -, -, entry, -, hentry, -⟩ := h.entry_of_active hclock hactive
        obtain ⟨-, hexpire⟩ | ⟨-, hnone⟩ := h.step_expire hclock hactive hentry
        · exact hunique hexpire
        · rw [hnone] at hs
          cases hs
      · simp [timersMachine, OsalPortTimers.expire, hclock, hactive] at hs
  | cleanUp =>
    obtain ⟨s₁, dead', hclean, h', hstack⟩ := h.cleanUp
    simp only [timersMachine, hclean, Option.map_some] at hs
    cases hs
    exact ⟨entries, dead', by simpa [missed] using h', tableOf_congr hstack entries, rfl⟩

end TimersAt

end SensorCollector
