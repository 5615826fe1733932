import Mathlib.Data.List.Nodup
import SensorCollector.Lib.LinkedList

set_option relaxedAutoImplicit false
set_option autoImplicit false

/-!
# Linked lists of records

Linked lists in a heap of records, where one field of a record is its link. Taking a record out of a
list, or putting one at its end, writes the link of the record before: the lists that it is not in
stay as they are, and so does everything in the records apart from their links.

## Main definitions

* `LinkField` — the field of a record that is its link.
* `LinkField.unlink`, `LinkField.append` — a record is taken out of a list, or put at its end.
* `LinkField.Relinked` — a change of the links of some records.

## Main results

* `LinkField.unlink_spec`, `LinkField.append_spec` — what these operations do to a list.
-/

open LinkedList

universe u

/-- The field of a record that is its link. -/
structure LinkField (α ρ : Type u) where
  get : ρ → Option α
  set : ρ → Option α → ρ
  get_set : ∀ r q, get (set r q) = q
  set_set : ∀ r q q', set (set r q) q' = set r q'

namespace LinkField

variable {α ρ : Type u} (F : LinkField α ρ)

/-- The link of a record. -/
def link (heap : α → Option ρ) (a : α) : Option (Option α) := (heap a).map F.get

/-- Everything in a record apart from its link. -/
def content (heap : α → Option ρ) (a : α) : Option ρ := (heap a).map fun r => F.set r none

/-- Links of some records are changed, and nothing else. -/
structure Relinked (heap heap' : α → Option ρ) (changed : List α) : Prop where
  content_eq : F.content heap' = F.content heap
  others : ∀ a, a ∉ changed → heap' a = heap a

variable {F} {heap heap' heap'' : α → Option ρ}

/-- Nothing is changed. -/
theorem Relinked.rfl {changed : List α} : F.Relinked heap heap changed :=
  ⟨Eq.refl _, fun _ _ => Eq.refl _⟩

/-- Two changes in a row. -/
theorem Relinked.trans {changed changed' : List α} (h : F.Relinked heap heap' changed)
    (h' : F.Relinked heap' heap'' changed') : F.Relinked heap heap'' (changed ++ changed') := by
  refine ⟨h'.content_eq.trans h.content_eq, fun a ha => ?_⟩
  rw [List.mem_append, not_or] at ha
  exact (h'.others a ha.2).trans (h.others a ha.1)

/-- The same records are there. -/
theorem Relinked.isSome_eq {changed : List α} (h : F.Relinked heap heap' changed) (a : α) :
    (heap' a).isSome = (heap a).isSome := by
  have hcontent := congrArg Option.isSome (congrFun h.content_eq a)
  simpa [content] using hcontent

/-- A list without the records that change stays as it is. -/
theorem Relinked.chain {changed : List α} (h : F.Relinked heap heap' changed) {p : Option α}
    {as : List α} (hchain : Chain (F.link heap) p as) (hdisj : ∀ a ∈ as, a ∉ changed) :
    Chain (F.link heap') p as := by
  refine hchain.congr fun a ha => ?_
  rw [link, link, h.others a (hdisj a ha)]

/-- The records of a list are there. -/
theorem exists_of_mem {p : Option α} {as : List α} (h : Chain (F.link heap) p as) {a : α}
    (ha : a ∈ as) : ∃ r, heap a = some r := by
  obtain ⟨q, hq⟩ := h.link_isSome ha
  obtain ⟨r, hr, -⟩ := Option.map_eq_some_iff.mp hq
  exact ⟨r, hr⟩

/-! ## Operations on lists -/

section Operations

variable [DecidableEq α] (F)

/-- The link of a record is written. -/
def setNext (heap : α → Option ρ) (a : α) (q : Option α) : Option (α → Option ρ) :=
  (heap a).map fun r => Function.update heap a (some (F.set r q))

/-- The loop to the record whose link is `q`, in at most `n` rounds. -/
def findPrev (n : ℕ) (heap : α → Option ρ) (p q : Option α) : Option α :=
  (walk (F.link heap) (fun a => (F.link heap a).map fun r => decide (r = q)) n 0 none p).bind
    Walk.cell

/-- A record is taken out of a list. -/
def unlink (n : ℕ) (heap : α → Option ρ) (p : Option α) (a : α) :
    Option ((α → Option ρ) × Option α) := do
  let next ← F.link heap a
  if some a = p then return (heap, next)
  else return (← F.setNext heap (← F.findPrev n heap p (some a)) next, p)

/-- A record is put at the end of a list. -/
def append (n : ℕ) (heap : α → Option ρ) (p : Option α) (a : α) :
    Option ((α → Option ρ) × Option α) :=
  match p with
  | none => some (heap, some a)
  | some _ => do
    return (← F.setNext heap (← F.findPrev n heap p none) (some a), p)

variable {F}

variable (F) in
/-- **Writing a link.** -/
theorem setNext_spec {a : α} {r : ρ} (hr : heap a = some r) (q : Option α) :
    ∃ heap', F.setNext heap a q = some heap' ∧
      F.link heap' = Function.update (F.link heap) a (some q) ∧ F.Relinked heap heap' [a] := by
  refine ⟨Function.update heap a (some (F.set r q)), by rw [setNext, hr]; rfl, ?_, ?_, ?_⟩
  · funext b
    by_cases hb : b = a
    · subst hb
      simp [link, F.get_set]
    · simp [link, Function.update_of_ne hb]
  · funext b
    by_cases hb : b = a
    · subst hb
      simp [content, hr, F.set_set]
    · simp [content, Function.update_of_ne hb]
  · intro b hb
    exact Function.update_of_ne (by simpa using hb) _ _

/-- The loop to the record before the rest of a list. -/
theorem findPrev_spec {p : Option α} {as bs : List α} {a : α}
    (h : Chain (F.link heap) p (as ++ a :: bs)) {n : ℕ} (hn : (as ++ a :: bs).length ≤ n) :
    F.findPrev n heap p bs.head? = some a := by
  rw [findPrev, walk_link h hn]
  rfl

/-- **A record is taken out of a list.** Its own link stays as it is.

**Proof sketch.** If it is the first one, its link starts the rest of the list. Otherwise the loop
ends at the record before it, and this one is given its link. -/
theorem unlink_spec {p : Option α} {as bs : List α} {a : α}
    (h : Chain (F.link heap) p (as ++ a :: bs)) {n : ℕ} (hn : (as ++ a :: bs).length ≤ n) :
    ∃ heap', F.unlink n heap p a = some (heap', (as ++ bs).head?) ∧
      Chain (F.link heap') (as ++ bs).head? (as ++ bs) ∧ F.Relinked heap heap' as := by
  have hlink : F.link heap a = some bs.head? := h.link_eq
  obtain ⟨-, q, hq, hrest⟩ := h.drop
  obtain rfl : q = bs.head? := Option.some.inj (hq.symm.trans hlink)
  have hnodup := h.nodup
  rw [List.nodup_middle, List.nodup_cons, List.mem_append, not_or] at hnodup
  rcases List.eq_nil_or_concat' as with rfl | ⟨cs, c, rfl⟩
  · refine ⟨heap, ?_, hrest, Relinked.rfl⟩
    have hp : p = some a := h.eq_head?
    simp only [unlink, hlink, hp, Option.bind_eq_bind, Option.bind_some, if_pos]
    rfl
  · have h' : Chain (F.link heap) p (cs ++ c :: (a :: bs)) := by simpa using h
    have hfind := findPrev_spec h' (by simpa using hn)
    obtain ⟨r, hr⟩ := exists_of_mem h' (List.mem_append_right cs List.mem_cons_self)
    obtain ⟨heap', hset, hlink', hre⟩ := F.setNext_spec hr bs.head?
    have hne : some a ≠ p := by
      rw [h.eq_head?]
      intro heq
      have hmem : a ∈ cs ++ [c] := by
        cases cs with
        | nil => simpa using heq
        | cons d cs => simpa using Or.inl (Option.some.inj heq)
      exact hnodup.1.1 hmem
    have hc : c ∉ bs := by
      have hdisj := (List.nodup_append.mp hnodup.2).2.2
      exact fun hmem => hdisj c (by simp) c hmem rfl
    have hhead : p = ((cs ++ [c]) ++ bs).head? := by
      rw [h.eq_head?]
      cases cs <;> rfl
    refine ⟨heap', ?_, ?_, ?_⟩
    · have hfind' : F.findPrev n heap p (some a) = some c := hfind
      simp only [unlink, hlink, Option.bind_eq_bind, Option.bind_some, if_neg hne, hfind', hset]
      rw [← hhead]
      rfl
    · rw [← hhead, hlink']
      simpa using h'.relink hrest hc
    · exact ⟨hre.content_eq, fun b hb => hre.others b fun hmem => hb (by simp at hmem ⊢; tauto)⟩

/-- A record cannot be put at the end of a list whose first record is not there. -/
theorem append_eq_none {p a : α} (hp : heap p = none) (n : ℕ) :
    F.append n heap (some p) a = none := by
  have hlink : F.link heap p = none := by rw [link, hp, Option.map_none]
  have hwalk : F.findPrev n heap (some p) none = none := by
    rw [findPrev, walk_eq_none (by rw [hlink, Option.map_none]), Option.bind_none]
  simp only [append, hwalk, Option.bind_eq_bind, Option.bind_none]

/-- **A record is put at the end of a list.**

**Proof sketch.** In an empty list it is the first one. Otherwise the loop ends at the last record,
which is linked to it. -/
theorem append_spec {p : Option α} {as : List α} (h : Chain (F.link heap) p as) {a : α}
    (ha : a ∉ as) (hlast : F.link heap a = some none) {n : ℕ} (hn : as.length ≤ n) :
    ∃ heap', F.append n heap p a = some (heap', (as ++ [a]).head?) ∧
      Chain (F.link heap') (as ++ [a]).head? (as ++ [a]) ∧ F.Relinked heap heap' as := by
  have hone : Chain (F.link heap) (some a) [a] := ⟨rfl, none, hlast, rfl⟩
  rcases List.eq_nil_or_concat' as with rfl | ⟨cs, c, rfl⟩
  · obtain rfl : p = none := h
    exact ⟨heap, rfl, hone, Relinked.rfl⟩
  · have hfind : F.findPrev n heap p none = some c := findPrev_spec h hn
    obtain ⟨r, hr⟩ := exists_of_mem h (List.mem_append_right cs List.mem_cons_self)
    obtain ⟨heap', hset, hlink', hre⟩ := F.setNext_spec hr (some a)
    have hc : c ∉ [a] := by
      intro hmem
      obtain rfl : c = a := by simpa using hmem
      exact ha (by simp)
    have hhead : p = ((cs ++ [c]) ++ [a]).head? := by
      rw [h.eq_head?]
      cases cs <;> rfl
    obtain ⟨b, rfl⟩ : ∃ b, p = some b := by
      rw [h.eq_head?]
      cases cs <;> exact ⟨_, rfl⟩
    refine ⟨heap', ?_, ?_, ?_⟩
    · simp only [append, hfind, hset, Option.bind_eq_bind, Option.bind_some]
      rw [← hhead]
      rfl
    · rw [← hhead, hlink']
      simpa using h.relink hone hc
    · exact ⟨hre.content_eq, fun b hb => hre.others b fun hmem => hb (by simp at hmem ⊢; tauto)⟩

end Operations

end LinkField
