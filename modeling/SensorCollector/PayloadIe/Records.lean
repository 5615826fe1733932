import SensorCollector.Osal.Queue
import SensorCollector.PayloadIe.Format

set_option relaxedAutoImplicit false
set_option autoImplicit false

/-!
# The records of the information elements

The list that the parser makes: records linked one after the other, at blocks that were free before.
To put a record at its end changes the link of the last one; to free the list gives the blocks back.

## Main definitions

* `SensorCollector.withRecords` — the heap with a list of records.
* `SensorCollector.FreeBlocks` — blocks that an allocation can return.

## Main results

* `SensorCollector.IeParse.HasRecords.add` — a record is put at the end of the list.
* `SensorCollector.freeIes_withRecords` — the list is freed.
-/

namespace SensorCollector

/-- The heap with records for the given items at the given blocks, linked one after the other. -/
def withRecords (heap : IeHeap) : List (Addr × ApiMacPayloadIeItem) → IeHeap
  | [] => heap
  | (a, item) :: recs =>
    Function.update (withRecords heap recs) a (some ⟨recs.head?.map Prod.fst, item⟩)

/-- The blocks are different ones, and nothing is allocated there. -/
structure FreeBlocks (heap : IeHeap) (blocks : List Addr) : Prop where
  nodup : blocks.Nodup
  free : ∀ a ∈ blocks, heap a = none

variable {heap : IeHeap}

/-- Outside the records nothing changes. -/
theorem withRecords_of_notMem {recs : List (Addr × ApiMacPayloadIeItem)} {a : Addr}
    (ha : a ∉ recs.map Prod.fst) : withRecords heap recs a = heap a := by
  induction recs with
  | nil => rfl
  | cons r recs ih =>
    rw [List.map_cons, List.mem_cons, not_or] at ha
    rw [withRecords, Function.update_of_ne ha.1]
    exact ih ha.2

/-- The last record has no link. -/
theorem withRecords_last {recs : List (Addr × ApiMacPayloadIeItem)} {a : Addr}
    {item : ApiMacPayloadIeItem} (ha : a ∉ recs.map Prod.fst) :
    withRecords heap (recs ++ [(a, item)]) a = some ⟨none, item⟩ := by
  induction recs with
  | nil => exact Function.update_self _ _ _
  | cons r recs ih =>
    rw [List.map_cons, List.mem_cons, not_or] at ha
    rw [List.cons_append, withRecords, Function.update_of_ne ha.1]
    exact ih ha.2

/-- One more record at the end of a list: it is allocated, and the last one is linked to it.

**Proof sketch.** Induction on the records before the last one. They are at other blocks than the
two that change, so the changes commute. -/
theorem withRecords_snoc {recs : List (Addr × ApiMacPayloadIeItem)} {a b : Addr}
    {item new : ApiMacPayloadIeItem} (hab : a ≠ b) (ha : a ∉ recs.map Prod.fst)
    (hb : b ∉ recs.map Prod.fst) :
    withRecords heap (recs ++ [(a, item)] ++ [(b, new)]) =
      Function.update (Function.update (withRecords heap (recs ++ [(a, item)])) b
        (some ⟨none, new⟩)) a (some ⟨some b, item⟩) := by
  induction recs with
  | nil =>
    simp only [List.nil_append, List.cons_append, withRecords, List.head?_cons, List.head?_nil,
      Option.map_some, Option.map_none]
    rw [Function.update_comm hab, Function.update_idem]
  | cons r recs ih =>
    rw [List.map_cons, List.mem_cons, not_or] at ha hb
    have hhead : (recs ++ [(a, item)] ++ [(b, new)]).head? = (recs ++ [(a, item)]).head? := by
      cases recs <;> rfl
    simp only [List.cons_append, withRecords, hhead, ih ha.2 hb.2]
    rw [Function.update_comm ha.1, Function.update_comm hb.1]

/-! ## The list of the parser -/

/-- The parser has made a list of these records. -/
structure IeParse.HasRecords (s : IeParse) (heap : IeHeap)
    (recs : List (Addr × ApiMacPayloadIeItem)) : Prop where
  heap_eq : s.heap = withRecords heap recs
  pList_eq : s.pList = recs.head?.map Prod.fst
  pIe_eq : s.pIe = recs.getLast?.map Prod.fst

/-- **A record is put at the end of the list.** -/
theorem IeParse.HasRecords.add {s : IeParse} {recs : List (Addr × ApiMacPayloadIeItem)}
    (h : s.HasRecords heap recs) (hnodup : (recs.map Prod.fst).Nodup) {b : Addr}
    (hb : b ∉ recs.map Prod.fst) (new : ApiMacPayloadIeItem) :
    ∃ s', s.add b new = some s' ∧ s'.HasRecords heap (recs ++ [(b, new)]) ∧
      s'.pContent = new.pIEContent + new.ieContentLen.toNat ∧
      s'.lenContent = s.lenContent + (2 + new.ieContentLen) := by
  obtain ⟨hheap, hlist, hlast⟩ := h
  rcases List.eq_nil_or_concat' recs with rfl | ⟨recs', ⟨a, item⟩, rfl⟩
  · refine ⟨⟨Function.update s.heap b (some ⟨none, new⟩), some b, some b, _, _⟩, ?_,
      ⟨?_, rfl, rfl⟩, rfl, rfl⟩
    · simp only [IeParse.add, hlist, List.head?_nil, Option.map_none, Option.bind_eq_bind,
        Option.bind_some]
      rfl
    · simp only [hheap, List.nil_append]
      rfl
  · rw [List.map_append, List.map_singleton, List.nodup_append] at hnodup
    rw [List.map_append, List.map_singleton, List.mem_append, List.mem_singleton, not_or] at hb
    have ha : a ∉ recs'.map Prod.fst := fun hmem => hnodup.2.2 a hmem a (by simp) rfl
    have hab : a ≠ b := fun heq => hb.2 heq.symm
    obtain ⟨p, hp⟩ : ∃ p, s.pList = some p := by
      rw [hlist]
      cases recs' <;> exact ⟨_, rfl⟩
    have hpIe : s.pIe = some a := by simp [hlast]
    have hset : IeHeap.setNext (Function.update s.heap b (some ⟨none, new⟩)) a (some b) =
        some (withRecords heap (recs' ++ [(a, item)] ++ [(b, new)])) := by
      rw [IeHeap.setNext, Function.update_of_ne hab, hheap, withRecords_last ha,
        withRecords_snoc hab ha hb.1]
      rfl
    refine ⟨⟨withRecords heap (recs' ++ [(a, item)] ++ [(b, new)]), some p, some b, _, _⟩, ?_,
      ⟨rfl, ?_, ?_⟩, rfl, rfl⟩
    · simp only [IeParse.add, hp, hpIe, hset, Option.bind_eq_bind, Option.bind_some,
        Option.map_some]
      rfl
    · rw [← hp, hlist]
      cases recs' <;> rfl
    · simp

/-- **The list is freed**: the heap is the one before the list was made.

**Proof sketch.** Induction on the records. The first one is not at the block of another one, so
without it the others are still a list. -/
theorem freeIes_withRecords {recs : List (Addr × ApiMacPayloadIeItem)}
    (hfree : FreeBlocks heap (recs.map Prod.fst)) {n : ℕ} (hn : recs.length ≤ n) :
    freeIes n (withRecords heap recs) (recs.head?.map Prod.fst) = some heap := by
  induction recs generalizing n with
  | nil => cases n <;> rfl
  | cons r recs ih =>
    obtain ⟨a, item⟩ := r
    obtain ⟨m, rfl⟩ : ∃ m, n = m + 1 := ⟨n - 1, by simp at hn; omega⟩
    obtain ⟨hnodup, hnone⟩ := hfree
    rw [List.map_cons, List.nodup_cons] at hnodup
    rw [List.map_cons, List.forall_mem_cons] at hnone
    have hat : withRecords heap ((a, item) :: recs) a =
        some ⟨recs.head?.map Prod.fst, item⟩ := Function.update_self _ _ _
    have hrest : Function.update (withRecords heap ((a, item) :: recs)) a none =
        withRecords heap recs := by
      rw [withRecords, Function.update_idem, Function.update_eq_self_iff,
        withRecords_of_notMem hnodup.1, hnone.1]
    simp only [List.head?_cons, Option.map_some, freeIes, hat, Option.bind_eq_bind,
      Option.bind_some, hrest]
    exact ih ⟨hnodup.2, hnone.2⟩ (by simpa using hn)

/-- `ApiMac_freeIEList` gives the blocks of a list back. -/
theorem apiMacFreeIEList_withRecords {recs : List (Addr × ApiMacPayloadIeItem)}
    (hfree : FreeBlocks heap (recs.map Prod.fst)) :
    apiMacFreeIEList (withRecords heap recs) (recs.head?.map Prod.fst) = some heap := by
  refine freeIes_withRecords hfree ?_
  have hlen := length_le_of_nodup hfree.nodup
  rwa [List.length_map] at hlen

end SensorCollector
