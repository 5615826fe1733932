import Mathlib.Data.List.Induction
import Mathlib.Tactic.Common

set_option relaxedAutoImplicit false
set_option autoImplicit false

/-!
# Past-time properties of finite histories

A history is a list of what has happened, the latest last. Two operators speak about its past: that
something has always been as it should, given what had happened before it, and that something has
happened since the last stop, where whether an element is a stop may depend on what had happened
before it as well. Both have an equation for a history with one more element, so that they can be
computed along a run.

## Main definitions

* `List.Always` — every element is allowed after the elements before it.
* `List.Since` — an element with a property occurs, and no stop after it.

## Main results

* `List.always_concat`, `List.since_concat` — the equations for one more element.
* `List.since_append_of_neutral` — elements that neither have the property nor are stops do not
  matter.
-/

namespace List

variable {α : Type*} {P : List α → α → Prop} {stop : List α → α → Prop} {q : α → Prop}

/-- Every element of the history is as `P` asks, after the elements before it. -/
def Always (P : List α → α → Prop) (l : List α) : Prop :=
  ∀ past x future, l = past ++ x :: future → P past x

/-- An element with `q` occurs in the history, and after it no stop. -/
def Since (stop : List α → α → Prop) (q : α → Prop) (l : List α) : Prop :=
  ∃ past x after, l = past ++ x :: after ∧ q x ∧
    ∀ m₁ y m₂, after = m₁ ++ y :: m₂ → ¬ stop (past ++ x :: m₁) y

/-- The empty history is always as it should. -/
@[simp] theorem always_nil : Always P [] := by
  intro past x future h
  simp at h

/-- A history with one more element is as it should if it was before and the element is. -/
@[simp] theorem always_concat {l : List α} {x : α} :
    Always P (l ++ [x]) ↔ Always P l ∧ P l x := by
  constructor
  · intro h
    refine ⟨fun past y future heq => ?_, h l x [] rfl⟩
    apply h past y (future ++ [x])
    simp [heq]
  · rintro ⟨hl, hx⟩ past y future heq
    induction future using List.reverseRecOn with
    | nil =>
      obtain ⟨rfl, hy⟩ := List.append_inj' heq rfl
      obtain rfl := List.singleton_inj.mp hy
      exact hx
    | append_singleton future z _ =>
      rw [← List.cons_append, ← List.append_assoc] at heq
      exact hl past y future (List.append_inj' heq rfl).1

/-- Nothing has happened in the empty history. -/
@[simp] theorem not_since_nil : ¬ Since stop q [] := by
  rintro ⟨past, x, after, h, -⟩
  simp at h

/-- With one more element, the property holds since the last stop if the element has it, or if the
element is no stop and it held before.

**Proof sketch.** The element with the property is the last one, or stands before it. -/
@[simp] theorem since_concat {l : List α} {x : α} :
    Since stop q (l ++ [x]) ↔ q x ∨ (¬ stop l x ∧ Since stop q l) := by
  constructor
  · rintro ⟨past, y, after, heq, hy, hstop⟩
    induction after using List.reverseRecOn with
    | nil =>
      obtain ⟨-, hxy⟩ := List.append_inj' heq rfl
      obtain rfl := List.singleton_inj.mp hxy
      exact Or.inl hy
    | append_singleton after z _ =>
      rw [← List.cons_append, ← List.append_assoc] at heq
      obtain ⟨rfl, hxz⟩ := List.append_inj' heq rfl
      obtain rfl := List.singleton_inj.mp hxz
      refine Or.inr ⟨hstop after x [] rfl, past, y, after, rfl, hy, fun m₁ w m₂ hsplit => ?_⟩
      apply hstop m₁ w (m₂ ++ [x])
      simp [hsplit]
  · rintro (hx | ⟨hstop, past, y, after, rfl, hy, hafter⟩)
    · exact ⟨l, x, [], rfl, hx, by simp⟩
    · refine ⟨past, y, after ++ [x], by simp, hy, fun m₁ w m₂ hsplit => ?_⟩
      induction m₂ using List.reverseRecOn with
      | nil =>
        obtain ⟨rfl, hxw⟩ := List.append_inj' hsplit rfl
        obtain rfl := List.singleton_inj.mp hxw
        exact hstop
      | append_singleton m₂ z _ =>
        rw [← List.cons_append, ← List.append_assoc] at hsplit
        exact hafter m₁ w m₂ (List.append_inj' hsplit rfl).1

/-- A history with perhaps one more element is as it should if it was before and the element is. -/
theorem always_append_ite {l : List α} {x : α} {c : Prop} [Decidable c] :
    Always P (l ++ if c then [x] else []) ↔ Always P l ∧ (c → P l x) := by
  split_ifs with hc
  · rw [always_concat, imp_iff_right hc]
  · rw [List.append_nil, and_iff_left fun h => absurd h hc]

/-- With perhaps one more element, the property holds since the last stop if the element is there
and has it, or if it is not there or no stop, and the property held before. -/
theorem since_append_ite {l : List α} {x : α} {c : Prop} [Decidable c] :
    Since stop q (l ++ if c then [x] else []) ↔
      (c ∧ q x) ∨ ((c → ¬ stop l x) ∧ Since stop q l) := by
  split_ifs with hc
  · rw [since_concat, and_iff_right hc, imp_iff_right hc]
  · rw [List.append_nil, or_iff_right fun h => hc h.1, and_iff_right fun h => absurd h hc]

/-- Elements that neither have the property nor are stops make no difference. -/
theorem since_append_of_neutral {l m : List α} (h : ∀ x ∈ m, ¬ q x ∧ ∀ past, ¬ stop past x) :
    Since stop q (l ++ m) ↔ Since stop q l := by
  induction m using List.reverseRecOn with
  | nil => rw [List.append_nil]
  | append_singleton m x ih =>
    obtain ⟨hq, hstop⟩ := h x (by simp)
    rw [← List.append_assoc, since_concat, or_iff_right hq, and_iff_right (hstop _)]
    exact ih fun y hy => h y (by simp [hy])

/-- Elements that are always allowed make no difference. -/
theorem always_append_of_neutral {l m : List α} (h : ∀ x ∈ m, ∀ past, P past x) :
    Always P (l ++ m) ↔ Always P l := by
  induction m using List.reverseRecOn with
  | nil => rw [List.append_nil]
  | append_singleton m x ih =>
    rw [← List.append_assoc, always_concat, and_iff_left (h x (by simp) _)]
    exact ih fun y hy => h y (by simp [hy])

end List
