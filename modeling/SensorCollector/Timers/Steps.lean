import Mathlib.Data.List.Find
import SensorCollector.Timers.Lists

set_option relaxedAutoImplicit false
set_option autoImplicit false

/-!
# The functions on timers

What each function on timers does to the two lists and to the clocks. The list of the timers is an
association list: a timer is found by its key, added at the end and taken out.

## Main definitions

* `SensorCollector.TimersAt` — the invariant of the timers.

## Main results

* `SensorCollector.TimersAt.getTimerEntry_cases` — the search for a timer.
* `SensorCollector.TimersAt.create_existing`, `SensorCollector.TimersAt.create_new`,
  `SensorCollector.TimersAt.stop`, `SensorCollector.TimersAt.expire_reload`,
  `SensorCollector.TimersAt.expire_once`, `SensorCollector.TimersAt.cleanUp` — the functions.
-/

namespace SensorCollector

open LinkedList Ownership

/-- The task and the event of the clean-up. -/
def OsalPortTimers.stack (s : OsalPortTimers) : SetEvent := (s.stackTaskID, s.stackEventID)

/-- **The invariant of the timers.** The first list is that of the timers, with different keys; the
second one is that of the entries that are to be freed; these, and the ones that will never be
freed, are all entries. -/
structure TimersAt (s : OsalPortTimers) (entries : List (Addr × Timer)) (dead lost : List Addr) :
    Prop where
  live_at : Chain (timerField.link s.heap) s.pTimerEntries (entries.map Prod.fst)
  info : ∀ r ∈ entries, ∃ handle, timerInfo s.heap r.1 = some (handle, r.2)
  keys : (entries.map fun r => r.2.key).Nodup
  clean_at : ∃ pend, CleanAt s.heap s.pDeleteTimerEntries s.cleanUp dead pend ∧
    ∀ a ∈ pend, a ∈ lost
  owns : Owns s.heap (entries.map Prod.fst ++ (dead ++ lost))
  clocks : ClocksFor s.heap s.clocks (entries.map Prod.fst)

namespace TimersAt

variable {s : OsalPortTimers} {entries : List (Addr × Timer)} {dead lost : List Addr}

/-- An entry of the first list is not one of the others. -/
theorem disjoint (h : TimersAt s entries dead lost) {a : Addr} (ha : a ∈ entries.map Prod.fst) :
    a ∉ dead ∧ a ∉ lost := by
  have hdisj := (List.nodup_append.mp h.owns.nodup).2.2
  exact ⟨fun hmem => hdisj a ha a (by simp [hmem]) rfl,
    fun hmem => hdisj a ha a (by simp [hmem]) rfl⟩

/-- The length of the list is in the range of the loops. -/
theorem length_le (h : TimersAt s entries dead lost) :
    (entries.map Prod.fst).length ≤ UInt32.size :=
  length_le_of_nodup h.live_at.nodup

/-! ## The search -/

/-- The search for a timer ends at the first entry with its key. -/
theorem getTimerEntry (h : TimersAt s entries dead lost) (taskId : UInt8) (eventId : UInt32) :
    s.getTimerEntry taskId eventId =
      some ((entries.find? fun r => decide (r.2.key = (taskId, eventId))).map Prod.fst) := by
  let isKey (a : Addr) : Bool :=
    decide ((timerInfo s.heap a).map (fun r => r.2.key) = some (taskId, eventId))
  have hstop : ∀ a ∈ entries.map Prod.fst, s.isMeant taskId eventId a = some (isKey a) := by
    intro a ha
    obtain ⟨entry, hentry⟩ := LinkField.exists_of_mem h.live_at ha
    simp [OsalPortTimers.isMeant, isKey, timerInfo, hentry, Timer.key, TimerEntry.timer]
  have hfind : (entries.map Prod.fst).find? isKey =
      (entries.find? fun r => decide (r.2.key = (taskId, eventId))).map Prod.fst := by
    rw [List.find?_map]
    congr 1
    refine List.find?_congr fun r hr => ?_
    obtain ⟨handle, hinfo⟩ := h.info r hr
    simp [isKey, hinfo]
  rw [OsalPortTimers.getTimerEntry, walk_eq h.live_at hstop h.length_le, Option.map_some, hfind]

/-- **The search for a timer**: there is none with this key, or the search finds it. -/
theorem getTimerEntry_cases (h : TimersAt s entries dead lost) (taskId : UInt8)
    (eventId : UInt32) :
    (s.getTimerEntry taskId eventId = some none ∧
        ∀ r ∈ entries, r.2.key ≠ (taskId, eventId)) ∨
      ∃ as a timer bs, entries = as ++ (a, timer) :: bs ∧ timer.key = (taskId, eventId) ∧
        s.getTimerEntry taskId eventId = some (some a) := by
  rw [h.getTimerEntry]
  cases hfind : entries.find? fun r => decide (r.2.key = (taskId, eventId)) with
  | none =>
    left
    exact ⟨rfl, by simpa using hfind⟩
  | some r =>
    right
    obtain ⟨hkey, as, bs, heq, -⟩ := List.find?_eq_some_iff_append.mp hfind
    exact ⟨as, r.1, r.2, bs, heq, by simpa using hkey, rfl⟩

/-- The entry of a timer, and its clock. -/
theorem entry_of_mem (h : TimersAt s entries dead lost) {a : Addr} {timer : Timer}
    (hmem : (a, timer) ∈ entries) :
    ∃ entry clock, s.heap a = some entry ∧ entry.timer = timer ∧
      timerInfo s.heap a = some (entry.clockHandle, timer) ∧
      s.clocks entry.clockHandle = some clock ∧ clock.arg = a := by
  obtain ⟨handle, hinfo⟩ := h.info _ hmem
  obtain ⟨entry, hentry, rfl, htimer⟩ := exists_of_timerInfo hinfo
  obtain ⟨clock, hclock, harg, -⟩ := h.clocks.clock a _ _ hinfo
  exact ⟨entry, clock, hentry, htimer, hinfo, hclock, harg⟩

/-- An active clock is the one of a timer. -/
theorem entry_of_active (h : TimersAt s entries dead lost) {handle : Addr} {clock : ClockObject}
    (hclock : s.clocks handle = some clock) (hactive : clock.active = true) :
    ∃ as timer bs entry, entries = as ++ (clock.arg, timer) :: bs ∧
      s.heap clock.arg = some entry ∧ entry.timer = timer ∧ entry.clockHandle = handle ∧
      timerInfo s.heap clock.arg = some (handle, timer) := by
  obtain ⟨timer, hinfo⟩ := h.clocks.arg handle clock hclock
  obtain ⟨clock', hclock', -, hlive, -⟩ := h.clocks.clock _ _ _ hinfo
  obtain rfl := Option.some.inj (hclock.symm.trans hclock')
  obtain ⟨⟨a, timer'⟩, hmem, ha⟩ := List.mem_map.mp (hlive hactive)
  obtain rfl : a = clock.arg := ha
  obtain ⟨handle', hinfo'⟩ := h.info _ hmem
  obtain ⟨rfl, rfl⟩ : handle = handle' ∧ timer = timer' := by simpa [hinfo] using hinfo'
  obtain ⟨entry, hentry, hhandle, htimer⟩ := exists_of_timerInfo hinfo
  obtain ⟨as, bs, rfl⟩ := List.append_of_mem hmem
  exact ⟨as, timer, bs, entry, rfl, hentry, htimer, hhandle, hinfo⟩

/-! ## Starting and stopping -/

/-- **A timer that exists is started again**: its clock is, and nothing else changes. The status is
not success. -/
theorem create_existing (h : TimersAt s entries dead lost) {a : Addr} {timer : Timer}
    (hmem : (a, timer) ∈ entries) {taskId : UInt8} {eventId : UInt32}
    (hget : s.getTimerEntry taskId eventId = some (some a)) (timeout : UInt32) (reload : Bool)
    (block clock : Option Addr) :
    ∃ s', s.createTimerEntry taskId eventId timeout reload block clock =
        some (s', osalPortNoTimerAvail) ∧
      TimersAt s' entries dead lost ∧ s'.stack = s.stack := by
  obtain ⟨entry, clock, hentry, -, hinfo, hclock, harg⟩ := h.entry_of_mem hmem
  have hlive : a ∈ entries.map Prod.fst := List.mem_map.mpr ⟨_, hmem, rfl⟩
  refine ⟨{ s with clocks := Function.update s.clocks entry.clockHandle (some { clock with
    timeout := timeout * (1000 / clockTickPeriod), active := true }) }, ?_, ?_, rfl⟩
  · simp only [OsalPortTimers.createTimerEntry, hget, hentry, Clocks.stop, Clocks.restart,
      Clocks.modify, hclock, Option.bind_eq_bind, Option.bind_some, Option.map_some,
      Function.update_self, Function.update_idem]
    rfl
  · exact ⟨h.live_at, h.info, h.keys, h.clean_at, h.owns,
      h.clocks.set hinfo rfl (fun _ _ => Iff.rfl) harg (fun _ => hlive) fun _ _ => rfl⟩

/-- **A new timer** is put at the end of the list. -/
theorem create_new (h : TimersAt s entries dead lost) (hidle : s.cleanUp = .idle) {taskId : UInt8}
    {eventId : UInt32} (hget : s.getTimerEntry taskId eventId = some none)
    (hkey : ∀ r ∈ entries, r.2.key ≠ (taskId, eventId)) (timeout : UInt32) (reload : Bool)
    {a handle : Addr} (ha : s.heap a = none) (hhandle : s.clocks handle = none) :
    ∃ s', s.createTimerEntry taskId eventId timeout reload (some a) (some handle) =
        some (s', osalPortSuccess) ∧
      TimersAt s' (entries ++ [(a, ⟨taskId, eventId, reload⟩)]) dead lost ∧ s'.stack = s.stack := by
  let entry : TimerEntry := ⟨handle, taskId, eventId, reload, none⟩
  let heap₁ : TimerHeap := Function.update s.heap a (some entry)
  have hnot : a ∉ entries.map Prod.fst ++ (dead ++ lost) := h.owns.not_mem ha
  simp only [List.mem_append, not_or] at hnot
  have hsame : ∀ b, b ≠ a → heap₁ b = s.heap b := fun b hb => Function.update_of_ne hb _ _
  have hchain₁ : Chain (timerField.link heap₁) s.pTimerEntries (entries.map Prod.fst) :=
    h.live_at.congr fun b hb => by
      rw [LinkField.link, LinkField.link, hsame b (by rintro rfl; exact hnot.1 hb)]
  have hlast : timerField.link heap₁ a = some none := by
    simp [LinkField.link, heap₁, entry, timerField]
  obtain ⟨heap₂, happend, hchain₂, hre⟩ := LinkField.append_spec hchain₁ hnot.1 hlast h.length_le
  have hinfo₁ : timerInfo heap₁ =
      Function.update (timerInfo s.heap) a (some (handle, ⟨taskId, eventId, reload⟩)) := by
    funext b
    by_cases hb : b = a
    · subst hb
      simp [timerInfo, heap₁, entry, TimerEntry.timer]
    · rw [Function.update_of_ne hb, timerInfo, timerInfo, hsame b hb]
  have hinfo₂ : timerInfo heap₂ = timerInfo heap₁ := timerInfo_of_relinked hre
  refine ⟨{ s with
    heap := heap₂
    clocks := Function.update s.clocks handle (some ⟨if reload then
      timeout * (1000 / clockTickPeriod) else 0, timeout * (1000 / clockTickPeriod), true, a⟩)
    pTimerEntries := (entries.map Prod.fst ++ [a]).head? }, ?_, ?_, rfl⟩
  · simp only [OsalPortTimers.createTimerEntry, hget, Option.bind_eq_bind, Option.bind_some]
    rw [happend]
    simp only [Option.bind_some, Clocks.restart, Clocks.modify, Function.update_self,
      Option.map_some, Function.update_idem]
    rfl
  · constructor
    · rw [List.map_append]
      exact hchain₂
    · intro r hr
      show ∃ handle, timerInfo heap₂ r.1 = _
      rw [hinfo₂, hinfo₁]
      rcases List.mem_append.mp hr with hr' | hr'
      · have hne : r.1 ≠ a := by
          rintro rfl
          exact hnot.1 (List.mem_map.mpr ⟨r, hr', rfl⟩)
        rw [Function.update_of_ne hne]
        exact h.info r hr'
      · obtain rfl : r = (a, ⟨taskId, eventId, reload⟩) := by simpa using hr'
        exact ⟨handle, Function.update_self _ _ _⟩
    · rw [List.map_append, List.nodup_append]
      refine ⟨h.keys, by simp, ?_⟩
      intro key hmem key' hmem' heq
      obtain ⟨r, hr, rfl⟩ := List.mem_map.mp hmem
      obtain rfl : key' = (taskId, eventId) := by simpa [Timer.key] using hmem'
      exact hkey r hr heq
    · obtain ⟨pend, hclean, hpend⟩ := h.clean_at
      rw [hidle] at hclean
      obtain ⟨rfl, hdead⟩ := hclean
      refine ⟨[], ?_, by simp⟩
      show CleanAt heap₂ s.pDeleteTimerEntries s.cleanUp dead []
      rw [hidle]
      refine ⟨rfl, hdead.congr fun b hb => ?_⟩
      have hb₁ : b ∉ entries.map Prod.fst := fun hmem => (h.disjoint hmem).1 hb
      rw [LinkField.link, LinkField.link, hre.others b hb₁,
        hsame b (by rintro rfl; exact hnot.2.1 hb)]
    · have howns : Owns heap₂ (a :: (entries.map Prod.fst ++ (dead ++ lost))) :=
        (h.owns.alloc ha entry).congr hre.isSome_eq
      refine howns.perm ?_
      rw [List.map_append, List.append_assoc]
      exact List.perm_middle.symm
    · rw [List.map_append]
      exact h.clocks.add (by rw [timerInfo, ha, Option.map_none]) hhandle
        (hinfo₂.trans hinfo₁) rfl rfl

/-- The keys of the timers that are left are different. -/
theorem keys_remove {as bs : List (Addr × Timer)} {r : Addr × Timer}
    (hkeys : ((as ++ r :: bs).map fun r => r.2.key).Nodup) :
    ((as ++ bs).map fun r => r.2.key).Nodup := by
  refine hkeys.sublist (List.Sublist.map _ ?_)
  exact List.Sublist.append (List.Sublist.refl as) (List.sublist_cons_self r bs)

/-- The entries that are left are the same, apart from the one that is taken out. -/
theorem mem_remove {as bs : List (Addr × Timer)} {r : Addr × Timer}
    (hnodup : ((as ++ r :: bs).map Prod.fst).Nodup) {b : Addr} :
    b ∈ (as ++ bs).map Prod.fst ↔ b ≠ r.1 ∧ b ∈ (as ++ r :: bs).map Prod.fst := by
  rw [List.map_append, List.map_cons, List.nodup_middle, List.nodup_cons] at hnodup
  simp only [List.map_append, List.map_cons, List.mem_append, List.mem_cons] at hnodup ⊢
  constructor
  · intro hmem
    refine ⟨?_, by tauto⟩
    rintro rfl
    exact hnodup.1 hmem
  · tauto

/-- **A timer is stopped**: it is taken out of the list, and its entry and its clock are freed. -/
theorem stop {as bs : List (Addr × Timer)} {a : Addr} {timer : Timer}
    (h : TimersAt s (as ++ (a, timer) :: bs) dead lost) (hidle : s.cleanUp = .idle)
    {taskId : UInt8} {eventId : UInt32}
    (hget : s.getTimerEntry taskId eventId = some (some a)) :
    ∃ s', s.stopTimer taskId eventId = some (s', osalPortSuccess) ∧
      TimersAt s' (as ++ bs) dead lost ∧ s'.stack = s.stack := by
  obtain ⟨entry, clock, hentry, -, hinfo, hclock, harg⟩ := h.entry_of_mem
    (List.mem_append_right as List.mem_cons_self)
  have hlen := h.length_le
  have hchain := h.live_at
  have hnodup := hchain.nodup
  rw [List.map_append, List.map_cons] at hchain hlen
  obtain ⟨heap₁, hunlink, hchain₁, hre⟩ := LinkField.unlink_spec hchain hlen
  rw [← List.map_append] at hunlink hchain₁
  have ha : a ∉ (as ++ bs).map Prod.fst := fun hmem => ((mem_remove hnodup).mp hmem).1 rfl
  let heap₂ : TimerHeap := Function.update heap₁ a none
  have hsame : ∀ b, b ≠ a → heap₂ b = heap₁ b := fun b hb => Function.update_of_ne hb _ _
  have hinfo₂ : timerInfo heap₂ = Function.update (timerInfo s.heap) a none := by
    rw [← timerInfo_of_relinked hre]
    funext b
    by_cases hb : b = a
    · subst hb
      simp [timerInfo, heap₂]
    · rw [Function.update_of_ne hb, timerInfo, timerInfo, hsame b hb]
  refine ⟨{ s with
    heap := heap₂
    clocks := Function.update s.clocks entry.clockHandle none
    pTimerEntries := ((as ++ bs).map Prod.fst).head? }, ?_, ?_, rfl⟩
  · simp only [OsalPortTimers.stopTimer, hget, hentry, Clocks.stop, Clocks.delete, Clocks.modify,
      hclock, hunlink, Option.bind_eq_bind, Option.bind_some, Option.map_some,
      Function.update_self, Function.update_idem]
    rfl
  · constructor
    · refine hchain₁.congr fun b hb => ?_
      show timerField.link heap₂ b = timerField.link heap₁ b
      rw [LinkField.link, LinkField.link, hsame b (by rintro rfl; exact ha hb)]
    · intro r hr
      show ∃ handle, timerInfo heap₂ r.1 = _
      have hne : r.1 ≠ a := by
        rintro rfl
        exact ha (List.mem_map.mpr ⟨r, hr, rfl⟩)
      rw [hinfo₂, Function.update_of_ne hne]
      refine h.info r ?_
      simp only [List.mem_append, List.mem_cons] at hr ⊢
      tauto
    · exact keys_remove h.keys
    · obtain ⟨pend, hclean, -⟩ := h.clean_at
      rw [hidle] at hclean
      obtain ⟨rfl, hdead⟩ := hclean
      refine ⟨[], ?_, by simp⟩
      show CleanAt heap₂ s.pDeleteTimerEntries s.cleanUp dead []
      rw [hidle]
      refine ⟨rfl, hdead.congr fun b hb => ?_⟩
      have hb₁ : b ∉ (as ++ (a, timer) :: bs).map Prod.fst := fun hmem => (h.disjoint hmem).1 hb
      rw [List.map_append, List.map_cons, List.mem_append, List.mem_cons, not_or, not_or] at hb₁
      rw [LinkField.link, LinkField.link, hsame b hb₁.2.1, hre.others b hb₁.1]
    · have howns : Owns heap₁ ((as ++ (a, timer) :: bs).map Prod.fst ++ (dead ++ lost)) :=
        h.owns.congr hre.isSome_eq
      refine (howns.perm ?_ : Owns heap₁ (a :: ((as ++ bs).map Prod.fst ++ (dead ++ lost)))).free
      rw [List.map_append, List.map_append, List.map_cons, List.append_assoc, List.cons_append,
        List.append_assoc]
      exact List.perm_middle
    · refine h.clocks.remove hinfo hinfo₂ fun b hb => ?_
      rw [mem_remove hnodup]
      simp [hb]

/-! ## Expiry -/

/-- **The clock of a timer that reloads expires**: its event is set, and nothing else changes. -/
theorem expire_reload (h : TimersAt s entries dead lost) {handle : Addr} {clock : ClockObject}
    (hclock : s.clocks handle = some clock) (hactive : clock.active = true) {entry : TimerEntry}
    (hentry : s.heap clock.arg = some entry) (hreload : entry.reload = true) :
    ∃ s', s.expire handle = some (s', [entry.timer.key]) ∧ TimersAt s' entries dead lost ∧
      s'.stack = s.stack := by
  obtain ⟨as, timer, bs, entry', rfl, hentry', rfl, -, hinfo⟩ := h.entry_of_active hclock hactive
  obtain rfl := Option.some.inj (hentry.symm.trans hentry')
  refine ⟨{ s with
    clocks := Function.update s.clocks handle
      (some { clock with active := decide (clock.period ≠ 0) }) }, ?_, ?_, rfl⟩
  · simp only [OsalPortTimers.expire, hclock, Option.bind_eq_bind, Option.bind_some, if_pos hactive,
      OsalPortTimers.timerCb, hentry, if_pos hreload]
    rfl
  · refine ⟨h.live_at, h.info, h.keys, h.clean_at, h.owns,
      h.clocks.set hinfo rfl (fun _ _ => Iff.rfl) rfl (fun _ => by simp) fun _ hfalse => ?_⟩
    have htrue : entry.timer.reload = true := hreload
    rw [htrue] at hfalse
    cases hfalse

/-- The entry of a timer that does not reload, taken out of the list. -/
theorem unlink_once {as bs : List (Addr × Timer)} {a : Addr} {timer : Timer}
    (h : TimersAt s (as ++ (a, timer) :: bs) dead lost) :
    ∃ heap₁ heap₂, timerField.unlink UInt32.size s.heap s.pTimerEntries a =
        some (heap₁, ((as ++ bs).map Prod.fst).head?) ∧
      timerField.setNext heap₁ a none = some heap₂ ∧
      Chain (timerField.link heap₂) ((as ++ bs).map Prod.fst).head? ((as ++ bs).map Prod.fst) ∧
      timerField.link heap₂ a = some none ∧
      timerField.Relinked s.heap heap₂ (as.map Prod.fst ++ [a]) := by
  have hlen := h.length_le
  have hchain := h.live_at
  have ha : a ∉ (as ++ bs).map Prod.fst := fun hmem =>
    ((mem_remove hchain.nodup).mp hmem).1 rfl
  rw [List.map_append, List.map_cons] at hchain hlen
  obtain ⟨heap₁, hunlink, hchain₁, hre₁⟩ := LinkField.unlink_spec hchain hlen
  rw [← List.map_append] at hunlink hchain₁
  obtain ⟨entry, hentry⟩ : ∃ entry, heap₁ a = some entry := by
    obtain ⟨entry, clock, hentry, -⟩ := h.entry_of_mem
      (List.mem_append_right as List.mem_cons_self)
    have hsome := hre₁.isSome_eq a
    rw [hentry] at hsome
    exact Option.isSome_iff_exists.mp hsome
  obtain ⟨heap₂, hset, hlink, hre₂⟩ := timerField.setNext_spec hentry none
  refine ⟨heap₁, heap₂, hunlink, hset, ?_, ?_, hre₁.trans hre₂⟩
  · exact hre₂.chain hchain₁ fun b hb => by
      rw [List.mem_singleton]
      rintro rfl
      exact ha hb
  · rw [hlink, Function.update_self]

/-- The clocks after the clock of a timer that does not reload has expired. -/
theorem stop_update (clocks : Clocks) (handle : Addr) (clock : ClockObject) (active : Bool) :
    Clocks.stop (Function.update clocks handle (some { clock with active := active })) handle =
      some (Function.update clocks handle (some { clock with active := false })) := by
  simp only [Clocks.stop, Clocks.modify, Function.update_self, Option.map_some,
    Function.update_idem]

/-- **The clock of a timer that does not reload expires**: its event is set, and its entry is moved
to the second list.

**Proof sketch.** The first list loses the entry; the second one, which has other entries, gets it
at its end. Apart from links no entry changes. -/
theorem expire_once {as bs : List (Addr × Timer)} {handle : Addr} {clock : ClockObject}
    {timer : Timer} (h : TimersAt s (as ++ (clock.arg, timer) :: bs) dead lost)
    (hclock : s.clocks handle = some clock) (hactive : clock.active = true)
    (honce : timer.reload = false) (hhead : ∀ a ∈ s.pDeleteTimerEntries, (s.heap a).isSome) :
    ∃ s', s.expire handle = some (s', [timer.key, s.stack]) ∧
      TimersAt s' (as ++ bs) (if s.cleanUp.misses then dead else dead ++ [clock.arg])
        (if s.cleanUp.misses then lost ++ [clock.arg] else lost) ∧
      s'.stack = s.stack := by
  obtain ⟨timer', hinfo⟩ := h.clocks.arg handle clock hclock
  obtain ⟨handle', hinfo'⟩ := h.info _ (List.mem_append_right as List.mem_cons_self)
  obtain ⟨rfl, rfl⟩ : handle = handle' ∧ timer' = timer := by simpa [hinfo] using hinfo'
  obtain ⟨entry, hentry, rfl, rfl⟩ := exists_of_timerInfo hinfo
  have honce' : ¬ entry.reload = true := by
    have hfalse : entry.reload = false := honce
    rw [hfalse]
    decide
  obtain ⟨heap₁, heap₂, hunlink, hset, hchain₂, hlast, hre₂⟩ := h.unlink_once
  have hnodup := h.live_at.nodup
  have hlive : clock.arg ∈ (as ++ (clock.arg, entry.timer) :: bs).map Prod.fst := by simp
  obtain ⟨pend, hclean, hpend⟩ := h.clean_at
  -- the second list has other entries than the first one
  have hother : ∀ b ∈ dead ++ pend, b ∉ as.map Prod.fst ++ [clock.arg] := by
    intro b hb hmem
    have hmem' : b ∈ (as ++ (clock.arg, entry.timer) :: bs).map Prod.fst := by
      simp only [List.map_append, List.map_cons, List.mem_append, List.mem_cons,
        List.not_mem_nil, or_false] at hmem ⊢
      tauto
    obtain ⟨hdead, hlost⟩ := h.disjoint hmem'
    rcases List.mem_append.mp hb with hb | hb
    · exact hdead hb
    · exact hlost (hpend b hb)
  have hclean₂ : CleanAt heap₂ s.pDeleteTimerEntries s.cleanUp dead pend :=
    hclean.congr (fun b hb => hre₂.others b (hother b hb)) fun b hb => by
      have hsome := hre₂.isSome_eq b
      rw [hb] at hsome
      exact Option.isNone_iff_eq_none.mp (by simpa using hsome)
  have hhead₂ : ∀ b ∈ s.pDeleteTimerEntries, (heap₂ b).isSome := by
    intro b hb
    rw [hre₂.isSome_eq]
    exact hhead b hb
  have hnot : clock.arg ∉ dead ++ pend := fun hmem => hother _ hmem (by simp)
  obtain ⟨heap₃, happend, hre₃, hclean₃⟩ := hclean₂.append hhead₂ hnot hlast
  have hre := hre₂.trans hre₃
  refine ⟨{ s with
    heap := heap₃
    clocks := Function.update s.clocks entry.clockHandle (some { clock with active := false })
    pTimerEntries := ((as ++ bs).map Prod.fst).head?
    pDeleteTimerEntries := (dead ++ pend ++ [clock.arg]).head? }, ?_, ?_, rfl⟩
  · simp only [OsalPortTimers.expire, hclock, Option.bind_eq_bind, Option.bind_some, if_pos hactive,
      OsalPortTimers.timerCb, hentry, if_neg honce', stop_update, hunlink, hset, happend]
    rfl
  · constructor
    · refine hre₃.chain hchain₂ fun b hb => ?_
      have hmem := ((mem_remove hnodup).mp hb).2
      obtain ⟨hdead, hlost⟩ := h.disjoint hmem
      rw [List.mem_append, not_or]
      exact ⟨hdead, fun hb => hlost (hpend b hb)⟩
    · intro r hr
      show ∃ handle, timerInfo heap₃ r.1 = _
      rw [timerInfo_of_relinked hre]
      refine h.info r ?_
      simp only [List.mem_append, List.mem_cons] at hr ⊢
      tauto
    · exact keys_remove h.keys
    · refine ⟨_, hclean₃, ?_⟩
      intro b hb
      split_ifs at hb ⊢ with hmiss
      · rcases List.mem_append.mp hb with hb | hb
        · exact List.mem_append_left _ (hpend b hb)
        · exact List.mem_append_right _ hb
      · exact hpend b hb
    · refine (h.owns.congr hre.isSome_eq).perm ?_
      have hperm : ((as ++ (clock.arg, entry.timer) :: bs).map Prod.fst ++ (dead ++ lost)).Perm
          ((as ++ bs).map Prod.fst ++ (clock.arg :: (dead ++ lost))) := by
        rw [List.map_append, List.map_cons, List.map_append, List.append_assoc, List.append_assoc,
          List.cons_append]
        exact List.Perm.append_left _ (List.perm_middle.symm)
      refine hperm.trans (List.Perm.append_left _ ?_)
      split_ifs
      · rw [← List.append_assoc]
        exact (List.perm_append_singleton _ _).symm
      · rw [List.append_assoc]
        exact List.perm_middle.symm
    · refine h.clocks.set hinfo (timerInfo_of_relinked hre) (fun b hb => ?_) rfl
        (fun hfalse => by cases hfalse) fun hmem => ?_
      · rw [mem_remove hnodup]
        simp [hb]
      · exact absurd rfl ((mem_remove hnodup).mp hmem).1

/-- **The clock of a timer that does not reload expires while the head of the second list is freed
already**: the callback reads it. -/
theorem expire_eq_none {as bs : List (Addr × Timer)} {handle : Addr} {clock : ClockObject}
    {timer : Timer} (h : TimersAt s (as ++ (clock.arg, timer) :: bs) dead lost)
    (hclock : s.clocks handle = some clock) (hactive : clock.active = true)
    (honce : timer.reload = false) {head : Addr} (hhead : s.pDeleteTimerEntries = some head)
    (hfreed : s.heap head = none) : s.expire handle = none := by
  obtain ⟨timer', hinfo⟩ := h.clocks.arg handle clock hclock
  obtain ⟨handle', hinfo'⟩ := h.info _ (List.mem_append_right as List.mem_cons_self)
  obtain ⟨rfl, rfl⟩ : handle = handle' ∧ timer' = timer := by simpa [hinfo] using hinfo'
  obtain ⟨entry, hentry, rfl, rfl⟩ := exists_of_timerInfo hinfo
  have honce' : ¬ entry.reload = true := by
    have hfalse : entry.reload = false := honce
    rw [hfalse]
    decide
  obtain ⟨heap₁, heap₂, hunlink, hset, -, -, hre₂⟩ := h.unlink_once
  have hfreed₂ : heap₂ head = none := by
    have hsome := hre₂.isSome_eq head
    rw [hfreed] at hsome
    exact Option.isNone_iff_eq_none.mp (by simpa using hsome)
  have happend : timerField.append UInt32.size heap₂ (some head) clock.arg = none :=
    LinkField.append_eq_none hfreed₂ _
  simp only [OsalPortTimers.expire, hclock, Option.bind_eq_bind, Option.bind_some, if_pos hactive,
    OsalPortTimers.timerCb, hentry, if_neg honce', stop_update, hunlink, hset, hhead, happend,
    Option.bind_none]

/-! ## The clean-up -/

/-- **A part of the clean-up** is defined, and changes no timer.

**Proof sketch.** One case for each place. An entry that is freed is the first one of those that are
still to be freed, and its clock is not active. -/
theorem cleanUp (h : TimersAt s entries dead lost) :
    ∃ s' dead', s.cleanUpTimers = some s' ∧ TimersAt s' entries dead' lost ∧
      s'.stack = s.stack := by
  obtain ⟨pend, hclean, hpend⟩ := h.clean_at
  cases hplace : s.cleanUp with
  | idle =>
    rw [hplace] at hclean
    obtain ⟨rfl, hchain⟩ := hclean
    cases hp : s.pDeleteTimerEntries with
    | none => exact ⟨s, dead, by simp [OsalPortTimers.cleanUpTimers, hplace, hp], h, rfl⟩
    | some current =>
      refine ⟨{ s with cleanUp := .testing (some current) }, dead,
        by simp [OsalPortTimers.cleanUpTimers, hplace, hp], ?_, rfl⟩
      rw [hp] at hchain
      exact ⟨h.live_at, h.info, h.keys,
        ⟨[], ⟨rfl, hchain, current, hp, Or.inl rfl⟩, by simp⟩, h.owns, h.clocks⟩
  | testing current =>
    rw [hplace] at hclean
    obtain ⟨rfl, hchain, head, hhead, hor⟩ := hclean
    cases current with
    | none =>
      obtain rfl := hchain.eq_nil
      refine ⟨{ s with pDeleteTimerEntries := none, cleanUp := .idle }, [],
        by simp [OsalPortTimers.cleanUpTimers, hplace], ?_, rfl⟩
      exact ⟨h.live_at, h.info, h.keys, ⟨[], ⟨rfl, rfl⟩, by simp⟩, h.owns, h.clocks⟩
    | some current =>
      obtain ⟨rest, q, rfl, hlink, htail⟩ := hchain.exists_cons
      refine ⟨{ s with cleanUp := .freeing current q }, current :: rest,
        by simp [OsalPortTimers.cleanUpTimers, hplace, hlink], ?_, rfl⟩
      refine ⟨h.live_at, h.info, h.keys, ⟨[], ?_, by simp⟩, h.owns, h.clocks⟩
      exact ⟨rest, rfl, htail.eq_head?, fun _ => rfl, by simpa using hchain, head, hhead,
        by simpa using hor⟩
  | freeing current next =>
    rw [hplace] at hclean
    obtain ⟨rest, rfl, rfl, hnil, hchain, head, hhead, hor⟩ := hclean
    obtain ⟨entry, hentry⟩ := LinkField.exists_of_mem hchain List.mem_cons_self
    have hinfo : timerInfo s.heap current = some (entry.clockHandle, entry.timer) := by
      rw [timerInfo, hentry, Option.map_some]
    obtain ⟨clock, hclock, -⟩ := h.clocks.clock _ _ _ hinfo
    have hnotlive : current ∉ entries.map Prod.fst := fun hmem => (h.disjoint hmem).1 (by simp)
    let heap' : TimerHeap := Function.update s.heap current none
    have hsame : ∀ b, b ≠ current → heap' b = s.heap b := fun b hb => Function.update_of_ne hb _ _
    have hinfo' : timerInfo heap' = Function.update (timerInfo s.heap) current none := by
      funext b
      by_cases hb : b = current
      · subst hb
        simp [timerInfo, heap']
      · rw [Function.update_of_ne hb, timerInfo, timerInfo, hsame b hb]
    refine ⟨{ s with
      heap := heap'
      clocks := Function.update s.clocks entry.clockHandle none
      cleanUp := .testing rest.head? }, rest, ?_, ?_, rfl⟩
    · simp only [OsalPortTimers.cleanUpTimers, hplace, hentry, Clocks.delete, hclock,
        Option.bind_eq_bind, Option.bind_some, Option.map_some]
      rfl
    · constructor
      · refine h.live_at.congr fun b hb => ?_
        show timerField.link heap' b = timerField.link s.heap b
        rw [LinkField.link, LinkField.link, hsame b (by rintro rfl; exact hnotlive hb)]
      · intro r hr
        show ∃ handle, timerInfo heap' r.1 = _
        have hne : r.1 ≠ current := by
          rintro rfl
          exact hnotlive (List.mem_map.mpr ⟨r, hr, rfl⟩)
        rw [hinfo', Function.update_of_ne hne]
        exact h.info r hr
      · exact h.keys
      · refine ⟨[], ⟨rfl, ?_, head, hhead, Or.inr ?_⟩, by simp⟩
        · cases rest with
          | nil => rfl
          | cons b rest =>
            obtain rfl := hnil (by simp)
            have hnodup := List.nodup_cons.mp hchain.nodup
            obtain ⟨-, q, -, htail⟩ := hchain
            rw [List.append_nil] at htail hnodup
            obtain rfl : q = some b := htail.eq_head?
            refine htail.congr fun c hc => ?_
            show timerField.link heap' c = timerField.link s.heap c
            rw [LinkField.link, LinkField.link,
              hsame c (by rintro rfl; exact hnodup.1 hc)]
        · show heap' head = none
          rcases hor with rfl | hnone
          · exact Function.update_self _ _ _
          · by_cases heq : head = current
            · subst heq
              exact Function.update_self _ _ _
            · rw [hsame head heq, hnone]
      · refine (h.owns.perm ?_ :
          Owns s.heap (current :: (entries.map Prod.fst ++ (rest ++ lost)))).free
        rw [List.cons_append]
        exact List.perm_middle
      · exact h.clocks.remove hinfo hinfo' fun _ _ => Iff.rfl

end TimersAt

end SensorCollector
