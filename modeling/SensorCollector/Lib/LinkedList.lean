import Mathlib.Data.List.Basic
import Mathlib.Logic.Function.Basic

set_option relaxedAutoImplicit false
set_option autoImplicit false

/-!
# Linked lists

Singly linked lists of cells. A cell is named by its address, and a partial function gives its link:
to the next cell, or to nothing at the end of the list. Where it is undefined there is no cell.

A list that ends has no cell twice, so a loop along its links takes as many rounds as it has cells.

## Main definitions

* `LinkedList.Chain` — the cells of a list that starts at a given link.
* `LinkedList.walk` — the loop along the links, up to the first cell with a property.

## Main results

* `LinkedList.Chain.unique`, `LinkedList.Chain.nodup` — the cells are determined, and no cell occurs
  twice.
* `LinkedList.Chain.relink` — what the list is after one link has been changed.
* `LinkedList.walk_eq`, `LinkedList.walk_link` — the results of the loops that look for a property,
  and for the cell before a given one.
-/

namespace LinkedList

variable {α : Type*}

/-- The cells of the list that starts at the link `p`, in order. -/
def Chain (link : α → Option (Option α)) : Option α → List α → Prop
  | p, [] => p = none
  | p, a :: as => p = some a ∧ ∃ q, link a = some q ∧ Chain link q as

variable {link link' : α → Option (Option α)}

/-- The list from no link is empty. -/
@[simp] theorem chain_nil {p : Option α} : Chain link p [] ↔ p = none := Iff.rfl

/-- A list with a first cell starts at the link to it, and the link of the cell starts the rest. -/
@[simp] theorem chain_cons {p : Option α} {a : α} {as : List α} :
    Chain link p (a :: as) ↔ p = some a ∧ ∃ q, link a = some q ∧ Chain link q as := Iff.rfl

/-- A list starts at the link to its first cell. -/
theorem Chain.eq_head? {p : Option α} {as : List α} (h : Chain link p as) : p = as.head? := by
  cases as with
  | nil => exact h
  | cons a as => exact h.1

/-- The list from no link has no cells. -/
theorem Chain.eq_nil {as : List α} (h : Chain link none as) : as = [] := by
  cases as with
  | nil => rfl
  | cons a as => exact absurd h.1 (by simp)

/-- The list from a link to a cell has it as its first one. -/
theorem Chain.exists_cons {a : α} {as : List α} (h : Chain link (some a) as) :
    ∃ bs q, as = a :: bs ∧ link a = some q ∧ Chain link q bs := by
  cases as with
  | nil => exact absurd h (by simp)
  | cons b bs =>
    obtain ⟨hb, q, hq, htail⟩ := h
    obtain rfl := Option.some.inj hb
    exact ⟨bs, q, rfl, hq, htail⟩

/-- **The cells of a list are determined** by the link it starts at. -/
theorem Chain.unique {p : Option α} {as bs : List α} (ha : Chain link p as)
    (hb : Chain link p bs) : as = bs := by
  induction as generalizing p bs with
  | nil =>
    rw [chain_nil] at ha
    subst ha
    exact hb.eq_nil.symm
  | cons a as ih =>
    obtain ⟨rfl, q, hq, htail⟩ := ha
    obtain ⟨bs, q', rfl, hq', htail'⟩ := hb.exists_cons
    obtain rfl := Option.some.inj (hq.symm.trans hq')
    rw [ih htail htail']

/-- Every cell of a list has a link. -/
theorem Chain.link_isSome {p : Option α} {as : List α} (h : Chain link p as) {a : α}
    (ha : a ∈ as) : ∃ q, link a = some q := by
  induction as generalizing p with
  | nil => cases ha
  | cons b as ih =>
    obtain ⟨-, q, hq, htail⟩ := h
    rcases List.mem_cons.mp ha with rfl | ha
    · exact ⟨q, hq⟩
    · exact ih htail ha

/-- From a cell of a list on, the list is one of its own. -/
theorem Chain.drop {p : Option α} {as bs : List α} {a : α} (h : Chain link p (as ++ a :: bs)) :
    Chain link (some a) (a :: bs) := by
  induction as generalizing p with
  | nil =>
    obtain ⟨-, q, hq, htail⟩ := h
    exact ⟨rfl, q, hq, htail⟩
  | cons b as ih =>
    obtain ⟨-, q, -, htail⟩ := h
    exact ih htail

/-- **No cell occurs twice** in a list.

**Proof sketch.** From the second occurrence on, the list would be as long as from the first. -/
theorem Chain.nodup {p : Option α} {as : List α} (h : Chain link p as) : as.Nodup := by
  induction as generalizing p with
  | nil => exact List.nodup_nil
  | cons a as ih =>
    obtain ⟨-, q, hq, htail⟩ := h
    refine List.nodup_cons.mpr ⟨fun hmem => ?_, ih htail⟩
    obtain ⟨bs, cs, rfl⟩ := List.append_of_mem hmem
    obtain ⟨-, q', hq', htail'⟩ := htail.drop
    obtain rfl := Option.some.inj (hq.symm.trans hq')
    have hlen := congrArg List.length (htail.unique htail')
    simp only [List.length_append, List.length_cons] at hlen
    omega

/-- A list depends on the links of its own cells only. -/
theorem Chain.congr {p : Option α} {as : List α} (h : Chain link p as)
    (hsame : ∀ a ∈ as, link' a = link a) : Chain link' p as := by
  induction as generalizing p with
  | nil => exact h
  | cons a as ih =>
    obtain ⟨rfl, q, hq, htail⟩ := h
    rw [List.forall_mem_cons] at hsame
    exact ⟨rfl, q, hsame.1.trans hq, ih htail hsame.2⟩

section Update

variable [DecidableEq α]

/-- Changing the link of a cell that is not in the list leaves the list as it is. -/
theorem Chain.update {p : Option α} {as : List α} (h : Chain link p as) {a : α} (ha : a ∉ as)
    (r : Option (Option α)) : Chain (Function.update link a r) p as :=
  h.congr fun b hb => Function.update_of_ne (show b ≠ a by rintro rfl; exact ha hb) _ _

/-- **Changing one link**: the list is the old one up to that cell, and goes on as the list that the
new link starts.

**Proof sketch.** Induction on the cells before the one that is changed. They are other cells, since
no cell occurs twice. -/
theorem Chain.relink {p q : Option α} {as bs cs : List α} {a : α}
    (h : Chain link p (as ++ a :: bs)) (hq : Chain link q cs) (ha : a ∉ cs) :
    Chain (Function.update link a (some q)) p (as ++ a :: cs) := by
  induction as generalizing p with
  | nil => exact ⟨h.1, q, Function.update_self _ _ _, hq.update ha _⟩
  | cons b as ih =>
    have hne : b ≠ a := by
      have hnodup := h.nodup
      simp only [List.cons_append, List.nodup_cons, List.mem_append, List.mem_cons] at hnodup
      exact fun heq => hnodup.1 (Or.inr (Or.inl heq))
    obtain ⟨rfl, r, hr, htail⟩ := h
    exact ⟨rfl, r, by rw [Function.update_of_ne hne, hr], ih htail⟩

end Update

/-! ## Loops along the links -/

/-- What a loop along the links ends with. -/
structure Walk (α : Type*) where
  /-- The rounds it has taken. -/
  rounds : ℕ
  /-- The cell before the one it has ended at. -/
  prev : Option α
  /-- The link it has ended at: to the cell it has found, or to nothing. -/
  cell : Option α
  deriving DecidableEq

/-- The loop `while (p != NULL && !stop(p)) { prev = p; p = next(p); }`, with the number of its
rounds. It is undefined if it reads a cell that does not exist, or takes more than `n` rounds. -/
def walk (link : α → Option (Option α)) (stop : α → Option Bool) :
    ℕ → ℕ → Option α → Option α → Option (Walk α)
  | _, k, prev, none => some ⟨k, prev, none⟩
  | 0, _, _, some _ => none
  | n + 1, k, prev, some a =>
    (stop a).bind fun hit =>
      if hit then some ⟨k, prev, some a⟩
      else (link a).bind fun q => walk link stop n (k + 1) (some a) q

/-- A loop that starts at a cell that does not exist is undefined. -/
theorem walk_eq_none {stop : α → Option Bool} {a : α} (h : stop a = none) (n k : ℕ)
    (prev : Option α) : walk link stop n k prev (some a) = none := by
  cases n with
  | zero => rfl
  | succ n => rw [walk, h, Option.bind_none]

/-- **The result of a loop** along a list, in as many rounds as it may take: it ends at the first
cell that it is to stop at, after the cells before it.

**Proof sketch.** Induction on the cells of the list. -/
theorem walk_eq {stop : α → Option Bool} {f : α → Bool} {p : Option α} {as : List α}
    (h : Chain link p as) (hstop : ∀ a ∈ as, stop a = some (f a)) {n : ℕ} (hn : as.length ≤ n)
    (k : ℕ) (prev : Option α) :
    walk link stop n k prev p =
      some ⟨k + (as.takeWhile fun a => !f a).length,
        (as.takeWhile fun a => !f a).getLast?.or prev, as.find? f⟩ := by
  induction as generalizing p n k prev with
  | nil =>
    rw [chain_nil] at h
    subst h
    cases n <;> simp [walk]
  | cons a as ih =>
    obtain ⟨rfl, q, hq, htail⟩ := h
    rw [List.forall_mem_cons] at hstop
    obtain ⟨m, rfl⟩ : ∃ m, n = m + 1 := ⟨n - 1, by simp at hn; omega⟩
    have hm : as.length ≤ m := by simpa using hn
    rw [walk, hstop.1, Option.bind_some]
    cases hf : f a with
    | true => simp [hf]
    | false =>
      rw [hq, Option.bind_some, if_neg (by simp), ih htail hstop.2 hm]
      simp only [hf, Bool.not_false, List.takeWhile_cons_of_pos, List.length_cons,
        List.getLast?_cons, List.find?_cons, Option.some.injEq, Walk.mk.injEq, and_true]
      refine ⟨by omega, ?_⟩
      cases (as.takeWhile fun a => !f a).getLast? <;> rfl

/-- The link of a cell leads to the cell after it. -/
theorem Chain.link_eq {p : Option α} {as bs : List α} {a : α}
    (h : Chain link p (as ++ a :: bs)) : link a = some bs.head? := by
  obtain ⟨-, q, hq, htail⟩ := h.drop
  rw [hq, htail.eq_head?]

/-- The cells before one in the middle of a list have links to other cells than the one after it. -/
theorem Chain.link_ne {p : Option α} {as bs : List α} {a : α} (h : Chain link p (as ++ a :: bs)) :
    ∀ c ∈ as, ¬ link c = some bs.head? := by
  intro c hc
  obtain ⟨xs, ys, rfl⟩ := List.append_of_mem hc
  have hnodup := h.nodup
  rw [List.append_assoc, List.cons_append] at h
  rw [h.link_eq]
  intro heq
  have hhead : (ys ++ a :: bs).head? = bs.head? := Option.some.inj heq
  obtain ⟨b, hb⟩ : ∃ b, (ys ++ a :: bs).head? = some b := by
    cases ys <;> exact ⟨_, rfl⟩
  have hmem : b ∈ bs := List.mem_of_mem_head? (hhead ▸ hb)
  have hmem' : b ∈ ys ++ [a] := by
    cases ys with
    | nil => simpa using hb.symm
    | cons y ys => simpa using Or.inl (Option.some.inj hb).symm
  have hperm : (xs ++ c :: ys ++ a :: bs) = (xs ++ c :: (ys ++ [a])) ++ bs := by simp
  rw [hperm, List.nodup_append] at hnodup
  exact hnodup.2.2 b (by simp at hmem' ⊢; tauto) b hmem rfl

section Links

variable [DecidableEq α]

/-- The loop that stops at the cell whose link is `target` reads only links of cells of the list. -/
theorem Chain.map_link {p : Option α} {as : List α} (h : Chain link p as) (target : Option α) :
    ∀ a ∈ as, ((link a).map fun q => decide (q = target)) =
      some (decide (link a = some target)) := by
  intro a ha
  obtain ⟨q, hq⟩ := h.link_isSome ha
  simp [hq]

/-- The first cell of a list whose link is the one of `a`, is `a`. -/
theorem Chain.find?_link {p : Option α} {as bs : List α} {a : α}
    (h : Chain link p (as ++ a :: bs)) :
    ((as ++ a :: bs).find? fun c => decide (link c = some bs.head?)) = some a ∧
      ((as ++ a :: bs).takeWhile fun c => !decide (link c = some bs.head?)) = as := by
  have hbefore : ∀ c ∈ as, ¬ link c = some bs.head? := h.link_ne
  have hat : link a = some bs.head? := h.link_eq
  constructor
  · rw [List.find?_append, List.find?_eq_none.mpr (by simpa using hbefore)]
    simp [hat]
  · rw [List.takeWhile_append_of_pos (by simpa using hbefore)]
    simp [hat]

/-- **The loop to the cell before** one: it ends at the cell of the list whose link is the link to
`bs`, after the cells before it. With no `bs` this is the loop to the last cell. -/
theorem walk_link {p : Option α} {as bs : List α} {a : α} (h : Chain link p (as ++ a :: bs))
    {n : ℕ} (hn : (as ++ a :: bs).length ≤ n) (prev : Option α) :
    walk link (fun c => (link c).map fun q => decide (q = bs.head?)) n 0 prev p =
      some ⟨as.length, as.getLast?.or prev, some a⟩ := by
  rw [walk_eq h (h.map_link bs.head?) hn, h.find?_link.1, h.find?_link.2, Nat.zero_add]

end Links

end LinkedList
