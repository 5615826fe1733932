import Mathlib.Data.Nat.Notation
import Mathlib.Tactic.Common

set_option relaxedAutoImplicit false
set_option autoImplicit false

/-!
# Tables with a fixed number of slots

A table of `n` slots that is searched from its first slot on, and in which an entry is placed into
the first slot that satisfies a test.

## Main definitions

* `SlotTable` — a list of slots with its length.
* `SlotTable.find?`, `SlotTable.place?` — the two scans.
* `SlotTable.lookup`, `SlotTable.KeysDistinct` — the table as a finite map: the entry in use that
  has a key, and that there is at most one.

## Main results

* `SlotTable.place?_eq_none_iff`, `SlotTable.place?_eq_some_iff` — when there is a place, and what
  the table is afterwards.
* `SlotTable.find?_eq_some_of_unique` — the search finds an entry that is the only match.
* `SlotTable.lookup_of_set` — overwriting a slot with an entry for a new key is an insertion into
  the map, after the key of the slot has been erased.
-/

/-- A table of `n` slots. -/
structure SlotTable (n : ℕ) (α : Type*) where
  /-- The slots, in the order in which they are searched. -/
  slots : List α
  /-- There are `n` slots. -/
  length_slots : slots.length = n
  deriving DecidableEq

namespace SlotTable

variable {n : ℕ} {α : Type*}

/-- Two tables with the same slots are equal. -/
@[ext] theorem ext {t t' : SlotTable n α} (h : t.slots = t'.slots) : t = t' := by
  cases t; cases t'
  simp only at h
  subst h
  rfl

/-- The table with the same entry in every slot. -/
def replicate (n : ℕ) (x : α) : SlotTable n α := ⟨List.replicate n x, List.length_replicate⟩

/-- The first entry that satisfies the test. -/
def find? (p : α → Bool) (t : SlotTable n α) : Option α := t.slots.find? p

/-- The table with `x` in the first slot whose entry satisfies the test, if there is one. -/
def place? (p : α → Bool) (x : α) (t : SlotTable n α) : Option (SlotTable n α) :=
  (t.slots.findIdx? p).map fun i =>
    ⟨t.slots.set i x, by rw [List.length_set, t.length_slots]⟩

/-- A slot below `n` has an entry. -/
theorem exists_slot (t : SlotTable n α) {i : ℕ} (h : i < n) : ∃ a, t.slots[i]? = some a := by
  rw [← t.length_slots] at h
  exact ⟨_, List.getElem?_eq_getElem h⟩

/-- A slot with an entry is below `n`. -/
theorem lt_of_slot {t : SlotTable n α} {i : ℕ} {a : α} (h : t.slots[i]? = some a) : i < n := by
  rw [← t.length_slots]
  exact (List.getElem?_eq_some_iff.mp h).1

/-- There is no place for an entry when no slot satisfies the test. -/
theorem place?_eq_none_iff {p : α → Bool} {x : α} {t : SlotTable n α} :
    t.place? p x = none ↔ ∀ a ∈ t.slots, p a = false := by
  simp [place?, List.findIdx?_eq_none_iff]

/-- An entry is placed into the first slot that satisfies the test. -/
theorem place?_eq_some_iff {p : α → Bool} {x : α} {t t' : SlotTable n α} :
    t.place? p x = some t' ↔
      ∃ i a, t.slots[i]? = some a ∧ p a = true ∧
        (∀ j < i, ∀ b, t.slots[j]? = some b → p b = false) ∧ t'.slots = t.slots.set i x := by
  simp only [place?, Option.map_eq_some_iff, List.findIdx?_eq_some_iff_getElem]
  constructor
  · rintro ⟨i, ⟨hi, hp, hlt⟩, rfl⟩
    refine ⟨i, t.slots[i], List.getElem?_eq_getElem hi, hp, fun j hj b hb => ?_, rfl⟩
    have hjl : j < t.slots.length := by omega
    rw [List.getElem?_eq_getElem hjl, Option.some.injEq] at hb
    subst hb
    simpa using hlt j hj
  · rintro ⟨i, a, ha, hp, hlt, hslots⟩
    obtain ⟨hi, rfl⟩ := List.getElem?_eq_some_iff.mp ha
    refine ⟨i, ⟨hi, hp, fun j hj => ?_⟩, ext hslots.symm⟩
    have hjl : j < t.slots.length := by omega
    simpa using hlt j hj _ (List.getElem?_eq_getElem hjl)

/-- The search fails when no slot satisfies the test. -/
theorem find?_eq_none_iff {p : α → Bool} {t : SlotTable n α} :
    t.find? p = none ↔ ∀ a ∈ t.slots, p a = false := by
  simp [find?]

/-- What the search finds satisfies the test and is in the table. -/
theorem mem_of_find?_eq_some {p : α → Bool} {t : SlotTable n α} {a : α}
    (h : t.find? p = some a) : a ∈ t.slots ∧ p a = true :=
  ⟨List.mem_of_find?_eq_some h, List.find?_some h⟩

/-- The search finds an entry that satisfies the test if all such entries are equal. -/
theorem find?_eq_some_of_unique {p : α → Bool} {t : SlotTable n α} {a : α} (ha : a ∈ t.slots)
    (hp : p a = true) (huniq : ∀ b ∈ t.slots, p b = true → b = a) : t.find? p = some a := by
  cases hf : t.find? p with
  | none =>
    rw [find?_eq_none_iff.mp hf a ha] at hp
    exact absurd hp (by decide)
  | some b =>
    obtain ⟨hb, hpb⟩ := mem_of_find?_eq_some hf
    rw [huniq b hb hpb]

/-! ## The table as a finite map -/

section Keyed

variable {κ : Type*} [DecidableEq κ] {used : α → Bool} {key : α → κ}

/-- The entry in use that has the key, searched from the first slot on. -/
def lookup (used : α → Bool) (key : α → κ) (t : SlotTable n α) (k : κ) : Option α :=
  t.find? fun a => used a && decide (k = key a)

/-- Different slots that are in use have different keys. -/
def KeysDistinct (used : α → Bool) (key : α → κ) (t : SlotTable n α) : Prop :=
  ∀ (i j : ℕ) (a b : α), t.slots[i]? = some a → t.slots[j]? = some b → used a = true →
    used b = true → key a = key b → i = j

/-- No entry is found for a key that no slot in use has. -/
theorem lookup_eq_none_iff {t : SlotTable n α} {k : κ} :
    t.lookup used key k = none ↔ ∀ a ∈ t.slots, used a = true → key a ≠ k := by
  rw [lookup, find?_eq_none_iff]
  refine forall₂_congr fun a _ => ?_
  rw [← Bool.not_eq_true, Bool.and_eq_true, decide_eq_true_eq, not_and]
  exact forall_congr' fun _ => ne_comm

/-- The entry that is found for a key is the one in use that has it. -/
theorem lookup_eq_some_iff {t : SlotTable n α} (h : t.KeysDistinct used key) {k : κ} {a : α} :
    t.lookup used key k = some a ↔ a ∈ t.slots ∧ used a = true ∧ key a = k := by
  constructor
  · intro hfind
    obtain ⟨hmem, hp⟩ := mem_of_find?_eq_some hfind
    simp only [Bool.and_eq_true, decide_eq_true_eq] at hp
    exact ⟨hmem, hp.1, hp.2.symm⟩
  · rintro ⟨hmem, hused, rfl⟩
    apply find?_eq_some_of_unique hmem
    · simp [hused]
    · intro b hb hp
      simp only [Bool.and_eq_true, decide_eq_true_eq] at hp
      obtain ⟨i, hi⟩ := List.mem_iff_getElem?.mp hmem
      obtain ⟨j, hj⟩ := List.mem_iff_getElem?.mp hb
      have hij := h i j a b hi hj hused hp.1 hp.2
      rw [hij, hj] at hi
      exact Option.some.inj hi

/-- What is in the slots after one of them has been overwritten. -/
theorem getElem?_slots_of_set {t t' : SlotTable n α} {i : ℕ} {a x : α}
    (ha : t.slots[i]? = some a) (ht : t'.slots = t.slots.set i x) (j : ℕ) :
    t'.slots[j]? = if j = i then some x else t.slots[j]? := by
  have hi := (List.getElem?_eq_some_iff.mp ha).1
  rw [ht]
  split_ifs with hj
  · rw [hj, List.getElem?_set_self hi]
  · rw [List.getElem?_set_ne (Ne.symm hj)]

/-- Overwriting a slot with an entry for a new key keeps the keys distinct. -/
theorem keysDistinct_of_set {t t' : SlotTable n α} (h : t.KeysDistinct used key) {i : ℕ} {a x : α}
    (ha : t.slots[i]? = some a) (ht : t'.slots = t.slots.set i x)
    (hnew : t.lookup used key (key x) = none) : t'.KeysDistinct used key := by
  intro j k b c hb hc hub huc hkey
  rw [getElem?_slots_of_set ha ht] at hb hc
  rw [lookup_eq_none_iff] at hnew
  split_ifs at hb hc with hj hk hk
  · rw [hj, hk]
  · obtain rfl := Option.some.inj hb
    exact absurd hkey.symm (hnew c (List.mem_of_getElem? hc) huc)
  · obtain rfl := Option.some.inj hc
    exact absurd hkey (hnew b (List.mem_of_getElem? hb) hub)
  · exact h j k b c hb hc hub huc hkey

/-- **Overwriting a slot is an insertion.** After a slot has been overwritten with an entry for a
new key, that entry is found for its key, none is found for the key the slot had if it was in use,
and every other key finds what it found before.

**Proof sketch.** An entry that is found for another key has kept its slot, since the keys are
distinct before and after. -/
theorem lookup_of_set {t t' : SlotTable n α} (h : t.KeysDistinct used key) {i : ℕ} {a x : α}
    (ha : t.slots[i]? = some a) (ht : t'.slots = t.slots.set i x) (hx : used x = true)
    (hnew : t.lookup used key (key x) = none) (k : κ) :
    t'.lookup used key k =
      if k = key x then some x else if used a = true ∧ key a = k then none
      else t.lookup used key k := by
  have h' := keysDistinct_of_set h ha ht hnew
  have hslots := getElem?_slots_of_set ha ht
  split_ifs with hk hold
  · rw [lookup_eq_some_iff h', hk]
    exact ⟨List.mem_of_getElem? ((hslots i).trans (if_pos rfl)), hx, rfl⟩
  · rw [lookup_eq_none_iff]
    intro b hb hub hkey
    obtain ⟨j, hj⟩ := List.mem_iff_getElem?.mp hb
    rw [hslots] at hj
    split_ifs at hj with hji
    · obtain rfl := Option.some.inj hj
      exact hk hkey.symm
    · exact hji (h j i b a hj ha hub hold.1 (hkey.trans hold.2.symm))
  · apply Option.ext
    intro b
    rw [lookup_eq_some_iff h', lookup_eq_some_iff h]
    refine and_congr_left fun ⟨hub, hkey⟩ => ?_
    rw [List.mem_iff_getElem?, List.mem_iff_getElem?]
    refine exists_congr fun j => ?_
    rw [hslots]
    split_ifs with hji
    · subst hji
      rw [ha]
      refine iff_of_false (fun heq => ?_) fun heq => ?_
      · exact hk ((Option.some.inj heq) ▸ hkey.symm)
      · obtain rfl := Option.some.inj heq
        exact hold ⟨hub, hkey⟩
    · rfl

end Keyed

end SlotTable
