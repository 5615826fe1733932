import SensorCollector.Lib.Ownership
import SensorCollector.Osal.Queue
import SensorCollector.Timers.Defs

set_option relaxedAutoImplicit false
set_option autoImplicit false

/-!
# The lists of the timers

The two linked lists of the timers, and the clocks of their entries. While the clean-up runs, the
second list is what it has still to free. Its head may be freed already; then the pointer to it
leads to nothing, and an entry cannot be put at its end any more.

Between the read of the link of the last entry and the end of the clean-up, an entry that is put at
the end is not seen by the clean-up any more. Such entries are never freed.

## Main definitions

* `SensorCollector.Timer` — a timer, without where its entry is.
* `SensorCollector.ClocksFor` — every entry has its clock.
* `SensorCollector.CleanAt` — the second list, by where the clean-up is.
* `SensorCollector.TimersAt` — the invariant of the timers.

## Main results

* `SensorCollector.CleanAt.append` — an entry is put at the end of the second list.
* `SensorCollector.TimersAt.getTimerEntry` — the search for a timer.
-/

namespace SensorCollector

open LinkedList Ownership

/-! ## Entries -/

/-- A timer: the event that it sets, and whether it reloads. -/
structure Timer where
  taskId : UInt8
  eventId : UInt32
  reload : Bool
  deriving DecidableEq

/-- The task and the event, by which a timer is found. -/
def Timer.key (timer : Timer) : SetEvent := (timer.taskId, timer.eventId)

/-- The timer of an entry. -/
def TimerEntry.timer (entry : TimerEntry) : Timer :=
  ⟨entry.taskId, entry.eventId, entry.reload⟩

/-- What an entry holds apart from its link: its clock and its timer. -/
def timerInfo (heap : TimerHeap) (a : Addr) : Option (Addr × Timer) :=
  (heap a).map fun entry => (entry.clockHandle, entry.timer)

variable {heap heap' : TimerHeap} {clocks : Clocks} {live live' : List Addr}

/-- A change of links changes nothing else. -/
theorem timerInfo_of_relinked {changed : List Addr}
    (h : timerField.Relinked heap heap' changed) : timerInfo heap' = timerInfo heap := by
  funext a
  have hcontent := congrArg (Option.map fun entry : TimerEntry =>
    (entry.clockHandle, entry.timer)) (congrFun h.content_eq a)
  simpa [LinkField.content, timerInfo, Function.comp_def, timerField, TimerEntry.timer]
    using hcontent

/-- The entry behind what it holds. -/
theorem exists_of_timerInfo {a handle : Addr} {timer : Timer}
    (h : timerInfo heap a = some (handle, timer)) :
    ∃ entry, heap a = some entry ∧ entry.clockHandle = handle ∧ entry.timer = timer := by
  obtain ⟨entry, hentry, heq⟩ := Option.map_eq_some_iff.mp h
  exact ⟨entry, hentry, congrArg Prod.fst heq, congrArg Prod.snd heq⟩

/-! ## Clocks -/

/-- Every entry has a clock of its own, and there are no other clocks. Only clocks of timers are
active, and those of timers that do not reload always are. -/
structure ClocksFor (heap : TimerHeap) (clocks : Clocks) (live : List Addr) : Prop where
  clock : ∀ a handle timer, timerInfo heap a = some (handle, timer) →
    ∃ clock, clocks handle = some clock ∧ clock.arg = a ∧ (clock.active = true → a ∈ live) ∧
      (a ∈ live → timer.reload = false → clock.active = true)
  arg : ∀ handle clock, clocks handle = some clock →
    ∃ timer, timerInfo heap clock.arg = some (handle, timer)

namespace ClocksFor

/-- Two entries have different clocks. -/
theorem unique (h : ClocksFor heap clocks live) {a b handle : Addr} {timer timer' : Timer}
    (ha : timerInfo heap a = some (handle, timer))
    (hb : timerInfo heap b = some (handle, timer')) : a = b := by
  obtain ⟨clock, hclock, rfl, -⟩ := h.clock a handle timer ha
  obtain ⟨clock', hclock', rfl, -⟩ := h.clock b handle timer' hb
  rw [Option.some.inj (hclock.symm.trans hclock')]

/-- **One clock is changed**, and the membership of its entry in the list. -/
theorem set (h : ClocksFor heap clocks live) {a handle : Addr} {timer : Timer}
    (hinfo : timerInfo heap a = some (handle, timer)) (hsame : timerInfo heap' = timerInfo heap)
    (hlive : ∀ b, b ≠ a → (b ∈ live' ↔ b ∈ live)) {clock : ClockObject} (harg : clock.arg = a)
    (hactive : clock.active = true → a ∈ live')
    (harmed : a ∈ live' → timer.reload = false → clock.active = true) :
    ClocksFor heap' (Function.update clocks handle (some clock)) live' := by
  constructor
  · intro b handle' timer' hb
    rw [hsame] at hb
    by_cases heq : handle' = handle
    · subst heq
      obtain rfl : b = a := h.unique hb hinfo
      rw [hinfo] at hb
      cases hb
      exact ⟨clock, Function.update_self _ _ _, harg, hactive, harmed⟩
    · have hne : b ≠ a := by
        rintro rfl
        rw [hinfo] at hb
        cases hb
        exact heq rfl
      rw [Function.update_of_ne heq, hlive b hne]
      exact h.clock b handle' timer' hb
  · intro handle' clock' hclock'
    rw [hsame]
    by_cases heq : handle' = handle
    · subst heq
      rw [Function.update_self] at hclock'
      cases hclock'
      exact ⟨timer, harg ▸ hinfo⟩
    · rw [Function.update_of_ne heq] at hclock'
      exact h.arg handle' clock' hclock'

/-- A timer is added, with a clock of its own. -/
theorem add (h : ClocksFor heap clocks live) {a handle : Addr} {timer : Timer}
    (hnone : timerInfo heap a = none) (hvacant : clocks handle = none)
    (hinfo : timerInfo heap' = Function.update (timerInfo heap) a (some (handle, timer)))
    {clock : ClockObject} (harg : clock.arg = a) (hactive : clock.active = true) :
    ClocksFor heap' (Function.update clocks handle (some clock)) (live ++ [a]) := by
  constructor
  · intro b handle' timer' hb
    rw [hinfo] at hb
    by_cases hne : b = a
    · subst hne
      rw [Function.update_self] at hb
      cases hb
      exact ⟨clock, Function.update_self _ _ _, harg, fun _ => by simp, fun _ _ => hactive⟩
    · rw [Function.update_of_ne hne] at hb
      obtain ⟨clock', hclock', hrest⟩ := h.clock b handle' timer' hb
      have heq : handle' ≠ handle := by
        rintro rfl
        rw [hvacant] at hclock'
        cases hclock'
      rw [Function.update_of_ne heq]
      simpa [hne] using ⟨clock', hclock', hrest⟩
  · intro handle' clock' hclock'
    rw [hinfo]
    by_cases heq : handle' = handle
    · subst heq
      rw [Function.update_self] at hclock'
      cases hclock'
      exact ⟨timer, by rw [harg, Function.update_self]⟩
    · rw [Function.update_of_ne heq] at hclock'
      obtain ⟨timer', htimer'⟩ := h.arg handle' clock' hclock'
      have hne : clock'.arg ≠ a := by
        intro hne
        rw [hne, hnone] at htimer'
        cases htimer'
      exact ⟨timer', by rw [Function.update_of_ne hne, htimer']⟩

/-- An entry is freed together with its clock. -/
theorem remove (h : ClocksFor heap clocks live) {a handle : Addr} {timer : Timer}
    (hinfo : timerInfo heap a = some (handle, timer))
    (hfreed : timerInfo heap' = Function.update (timerInfo heap) a none)
    (hlive : ∀ b, b ≠ a → (b ∈ live' ↔ b ∈ live)) :
    ClocksFor heap' (Function.update clocks handle none) live' := by
  constructor
  · intro b handle' timer' hb
    rw [hfreed] at hb
    have hne : b ≠ a := by
      rintro rfl
      rw [Function.update_self] at hb
      cases hb
    rw [Function.update_of_ne hne] at hb
    have heq : handle' ≠ handle := by
      rintro rfl
      exact hne (h.unique hb hinfo)
    rw [Function.update_of_ne heq, hlive b hne]
    exact h.clock b handle' timer' hb
  · intro handle' clock' hclock'
    have heq : handle' ≠ handle := by
      rintro rfl
      rw [Function.update_self] at hclock'
      cases hclock'
    rw [Function.update_of_ne heq] at hclock'
    obtain ⟨timer', htimer'⟩ := h.arg handle' clock' hclock'
    have hne : clock'.arg ≠ a := by
      intro hne
      rw [hne, hinfo] at htimer'
      cases htimer'
      exact heq rfl
    exact ⟨timer', by rw [hfreed, Function.update_of_ne hne, htimer']⟩

end ClocksFor

/-! ## The second list -/

/-- The second list, by where the clean-up is: the entries `dead` that it will free, and the entries
`pend` that have been put at the end too late. -/
def CleanAt (heap : TimerHeap) (pDelete : Option Addr) :
    CleanUp → List Addr → List Addr → Prop
  | .idle, dead, pend => pend = [] ∧ Chain (timerField.link heap) pDelete dead
  | .testing current, dead, pend =>
    pend = [] ∧ Chain (timerField.link heap) current dead ∧
      ∃ head, pDelete = some head ∧ (current = some head ∨ heap head = none)
  | .freeing current next, dead, pend =>
    ∃ rest, dead = current :: rest ∧ next = rest.head? ∧ (rest ≠ [] → pend = []) ∧
      Chain (timerField.link heap) (some current) (current :: (rest ++ pend)) ∧
      ∃ head, pDelete = some head ∧ (current = head ∨ heap head = none)

/-- An entry that is put at the end of the second list now will not be freed. -/
def CleanUp.misses : CleanUp → Bool
  | .freeing _ none => true
  | _ => false

variable {pDelete : Option Addr} {place : CleanUp} {dead pend : List Addr}

/-- The second list does not depend on other entries. -/
theorem CleanAt.congr (h : CleanAt heap pDelete place dead pend)
    (hsame : ∀ a ∈ dead ++ pend, heap' a = heap a) (hnone : ∀ a, heap a = none → heap' a = none) :
    CleanAt heap' pDelete place dead pend := by
  have hlink : ∀ a ∈ dead ++ pend, timerField.link heap' a = timerField.link heap a := by
    intro a ha
    rw [LinkField.link, LinkField.link, hsame a ha]
  cases place with
  | idle =>
    obtain ⟨rfl, hchain⟩ := h
    exact ⟨rfl, hchain.congr fun a ha => hlink a (by simpa using ha)⟩
  | testing current =>
    obtain ⟨rfl, hchain, head, hhead, hor⟩ := h
    exact ⟨rfl, hchain.congr fun a ha => hlink a (by simpa using ha), head, hhead,
      hor.imp_right (hnone head)⟩
  | freeing current next =>
    obtain ⟨rest, rfl, hnext, hpend, hchain, head, hhead, hor⟩ := h
    exact ⟨rest, rfl, hnext, hpend, hchain.congr fun a ha => hlink a (by simpa using ha), head,
      hhead, hor.imp_right (hnone head)⟩

/-- The head of the second list, if it is there, is the first entry of a list of all its entries. -/
theorem CleanAt.chain (h : CleanAt heap pDelete place dead pend)
    (hhead : ∀ a ∈ pDelete, (heap a).isSome) :
    Chain (timerField.link heap) pDelete (dead ++ pend) := by
  have hfreed : ∀ head, pDelete = some head → heap head ≠ none := by
    intro head hp hnone
    have hsome := hhead head hp
    rw [hnone] at hsome
    cases hsome
  cases place with
  | idle =>
    obtain ⟨rfl, hchain⟩ := h
    simpa using hchain
  | testing current =>
    obtain ⟨rfl, hchain, head, rfl, rfl | hnone⟩ := h
    · simpa using hchain
    · exact absurd hnone (hfreed head rfl)
  | freeing current next =>
    obtain ⟨rest, rfl, -, -, hchain, head, rfl, rfl | hnone⟩ := h
    · exact hchain
    · exact absurd hnone (hfreed head rfl)

/-- **An entry is put at the end of the second list**, if its head is there. If the clean-up has
read the link of its last entry, it will not be freed.

**Proof sketch.** One case for each place of the clean-up. The head is there, so it is the entry
that the clean-up is at. -/
theorem CleanAt.append (h : CleanAt heap pDelete place dead pend)
    (hhead : ∀ a ∈ pDelete, (heap a).isSome) {a : Addr} (ha : a ∉ dead ++ pend)
    (hlast : timerField.link heap a = some none) :
    ∃ heap', timerField.append UInt32.size heap pDelete a =
        some (heap', (dead ++ pend ++ [a]).head?) ∧
      timerField.Relinked heap heap' (dead ++ pend) ∧
      CleanAt heap' (dead ++ pend ++ [a]).head? place
        (if place.misses then dead else dead ++ [a])
        (if place.misses then pend ++ [a] else pend) := by
  have hchain := h.chain hhead
  obtain ⟨heap', happend, hchain', hre⟩ :=
    LinkField.append_spec hchain ha hlast (length_le_of_nodup hchain.nodup)
  refine ⟨heap', happend, hre, ?_⟩
  have hfreed : ∀ head, pDelete = some head → heap head ≠ none := by
    intro head hp hnone
    have hsome := hhead head hp
    rw [hnone] at hsome
    cases hsome
  cases place with
  | idle =>
    obtain ⟨rfl, -⟩ := h
    exact ⟨rfl, by simpa [CleanUp.misses] using hchain'⟩
  | testing current =>
    obtain ⟨rfl, -, head, rfl, rfl | hnone⟩ := h
    · obtain ⟨bs, q, hdead, -⟩ := hchain.exists_cons
      rw [List.append_nil] at hdead
      subst hdead
      exact ⟨rfl, by simpa [CleanUp.misses] using hchain', head, rfl, Or.inl rfl⟩
    · exact absurd hnone (hfreed head rfl)
  | freeing current next =>
    obtain ⟨rest, rfl, rfl, hpend, -, head, rfl, rfl | hnone⟩ := h
    · cases rest with
      | nil =>
        exact ⟨[], rfl, rfl, by simp, by simpa [CleanUp.misses] using hchain', current, rfl,
          Or.inl rfl⟩
      | cons b rest =>
        obtain rfl := hpend (by simp)
        exact ⟨b :: rest ++ [a], rfl, rfl, fun _ => rfl,
          by simpa [CleanUp.misses] using hchain', current, rfl, Or.inl rfl⟩
    · exact absurd hnone (hfreed head rfl)

end SensorCollector
