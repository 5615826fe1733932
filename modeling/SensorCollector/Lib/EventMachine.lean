import Mathlib.Data.List.Infix
import Mathlib.Data.List.Induction

set_option relaxedAutoImplicit false
set_option autoImplicit false

/-!
# Event-driven machines and their runs

A machine takes one event at a time. A step may be undefined, either because the event is not
enabled or because it would leave the defined behaviour of the program being modelled. A run is
the list of the transitions taken by a finite list of events.

## Main definitions

* `EventMachine` — a deterministic, partial step function with an output.
* `EventMachine.exec` — the run of a list of events, as the list of its transitions.
* `EventMachine.Holds` — the run is defined and a property of its history holds at its end.
* `EventMachine.Guarded` — every event met along the run meets a condition on the state before.
* `EventMachine.StrayRun` — a run that goes on after an undefined step, in a state that a given
  relation leaves open.

## Main results

* `EventMachine.exec_induction` — the invariant rule, over the whole history of a run.
* `EventMachine.eq_last_write` — a part of the state is what was last written to it.
* `EventMachine.holds_iff_guarded` — a property of every prefix of a run is equivalent to a
  condition on each of its steps.
* `EventMachine.forall_post_iff` — the same for a property of states along a defined run.
* `EventMachine.persists_iff` — "once set, stays until released" is a property of single steps.
* `EventMachine.StrayRun.invariant` — the invariant rule for runs that go on.
-/

/-- A machine that takes one event at a time: the step gives the next state and an output, or
`none` where the step is undefined. -/
structure EventMachine (σ ε ω : Type*) where
  /-- One step of the machine. -/
  step : σ → ε → Option (σ × ω)

namespace EventMachine

/-- One step that has been taken. -/
structure Transition (σ ε ω : Type*) where
  /-- The state before the step. -/
  pre : σ
  /-- The event of the step. -/
  event : ε
  /-- The output of the step. -/
  out : ω
  /-- The state after the step. -/
  post : σ
  deriving DecidableEq

variable {σ ε ω : Type*} (M : EventMachine σ ε ω)

/-- The run of a list of events: its transitions in order, and the state it ends in. -/
def exec (s : σ) : List ε → Option (List (Transition σ ε ω) × σ)
  | [] => some ([], s)
  | e :: es =>
    match M.step s e with
    | none => none
    | some (s', o) => (exec s' es).map fun r => (⟨s, e, o, s'⟩ :: r.1, r.2)

/-- The empty run ends where it starts. -/
@[simp] theorem exec_nil (s : σ) : M.exec s [] = some ([], s) := rfl

/-- A run that starts with `e` is a step on `e` and a run of the other events. -/
theorem exec_cons_eq_some {s : σ} {e : ε} {es : List ε} {tr : List (Transition σ ε ω)} {t : σ} :
    M.exec s (e :: es) = some (tr, t) ↔
      ∃ s' o tr', M.step s e = some (s', o) ∧ M.exec s' es = some (tr', t) ∧
        tr = ⟨s, e, o, s'⟩ :: tr' := by
  rw [exec]
  cases hs : M.step s e with
  | none => simp
  | some r =>
    obtain ⟨s', o⟩ := r
    simp only [Option.map_eq_some_iff, Prod.mk.injEq, Option.some.injEq, Prod.exists]
    constructor
    · rintro ⟨tr', t', hx, rfl, rfl⟩
      exact ⟨s', o, tr', ⟨rfl, rfl⟩, hx, rfl⟩
    · rintro ⟨_, _, tr', ⟨rfl, rfl⟩, hx, rfl⟩
      exact ⟨tr', t, hx, rfl, rfl⟩

/-- A run of `es ++ fs` is a run of `es` followed by a run of `fs`. -/
theorem exec_append_eq_some {s : σ} {es fs : List ε} {tr : List (Transition σ ε ω)} {t : σ} :
    M.exec s (es ++ fs) = some (tr, t) ↔
      ∃ tr₁ s₁ tr₂, M.exec s es = some (tr₁, s₁) ∧ M.exec s₁ fs = some (tr₂, t) ∧
        tr = tr₁ ++ tr₂ := by
  induction es generalizing s tr with
  | nil => simp
  | cons e es ih =>
    simp only [List.cons_append, exec_cons_eq_some, ih]
    constructor
    · rintro ⟨s', o, _, hs, ⟨tr₁, s₁, tr₂, h₁, h₂, rfl⟩, rfl⟩
      exact ⟨_, s₁, tr₂, ⟨s', o, tr₁, hs, h₁, rfl⟩, h₂, rfl⟩
    · rintro ⟨_, s₁, tr₂, ⟨s', o, tr₁, hs, h₁, rfl⟩, h₂, rfl⟩
      exact ⟨s', o, _, hs, ⟨tr₁, s₁, tr₂, h₁, h₂, rfl⟩, rfl⟩

/-- A run of `es` followed by `e` is a run of `es` and one more step. -/
theorem exec_snoc_eq_some {s : σ} {es : List ε} {e : ε} {tr : List (Transition σ ε ω)} {t : σ} :
    M.exec s (es ++ [e]) = some (tr, t) ↔
      ∃ tr₁ s₁ o, M.exec s es = some (tr₁, s₁) ∧ M.step s₁ e = some (t, o) ∧
        tr = tr₁ ++ [⟨s₁, e, o, t⟩] := by
  simp only [exec_append_eq_some, exec_cons_eq_some, exec_nil, Option.some.injEq, Prod.mk.injEq]
  constructor
  · rintro ⟨tr₁, s₁, _, h₁, ⟨_, o, _, hs, ⟨rfl, rfl⟩, rfl⟩, rfl⟩
    exact ⟨tr₁, s₁, o, h₁, hs, rfl⟩
  · rintro ⟨tr₁, s₁, o, h₁, hs, rfl⟩
    exact ⟨tr₁, s₁, _, h₁, ⟨t, o, [], hs, ⟨rfl, rfl⟩, rfl⟩, rfl⟩

/-- **The invariant rule.** What holds of the empty history and is kept by every step holds at
the end of every run. -/
theorem exec_induction {s₀ : σ} {P : List ε → List (Transition σ ε ω) → σ → Prop}
    (h0 : P [] [] s₀)
    (hstep : ∀ es tr s e s' o, M.exec s₀ es = some (tr, s) → P es tr s →
      M.step s e = some (s', o) → P (es ++ [e]) (tr ++ [⟨s, e, o, s'⟩]) s') :
    ∀ {es tr s}, M.exec s₀ es = some (tr, s) → P es tr s := by
  intro es
  induction es using List.reverseRecOn with
  | nil =>
    intro tr s h
    simp only [exec_nil, Option.some.injEq, Prod.mk.injEq] at h
    obtain ⟨rfl, rfl⟩ := h
    exact h0
  | append_singleton es e ih =>
    intro tr s h
    obtain ⟨tr₁, s₁, o, h₁, hs, rfl⟩ := (M.exec_snoc_eq_some).mp h
    exact hstep es tr₁ s₁ e s o h₁ (ih h₁) hs

/-- A machine whose steps are all defined has a run on every list of events. -/
theorem exec_of_total (htotal : ∀ s e, ∃ s' o, M.step s e = some (s', o)) (s₀ : σ)
    (es : List ε) : ∃ tr s, M.exec s₀ es = some (tr, s) := by
  induction es generalizing s₀ with
  | nil => exact ⟨[], s₀, rfl⟩
  | cons e es ih =>
    obtain ⟨s', o, hs⟩ := htotal s₀ e
    obtain ⟨tr, s, hx⟩ := ih s'
    exact ⟨_, s, (M.exec_cons_eq_some).mpr ⟨s', o, tr, hs, hx, rfl⟩⟩

/-- The history of a run has one transition for each event. -/
theorem map_event_of_exec {s₀ : σ} {es : List ε} {tr : List (Transition σ ε ω)} {s : σ}
    (h : M.exec s₀ es = some (tr, s)) : tr.map Transition.event = es := by
  refine M.exec_induction (P := fun es tr _ => tr.map Transition.event = es) rfl ?_ h
  intro es tr s e s' o _ ih _
  simp [ih]

/-- The events of the first part of a history are among those of the run. -/
theorem mem_of_mem_history {s₀ : σ} {es : List ε} {tr₁ tr₂ : List (Transition σ ε ω)} {s : σ}
    (h : M.exec s₀ es = some (tr₁ ++ tr₂, s)) {e : ε} (he : e ∈ tr₁.map Transition.event) :
    e ∈ es := by
  rw [← M.map_event_of_exec h, List.map_append]
  exact List.mem_append_left _ he

/-- A transition of a run cuts it in two: it is a step taken from the end of the run before it, and
what follows is a run from the state after it. -/
theorem exec_cut {s₀ : σ} {es : List ε} {tr₁ tr₂ : List (Transition σ ε ω)}
    {t : Transition σ ε ω} {s : σ} (h : M.exec s₀ es = some (tr₁ ++ t :: tr₂, s)) :
    M.exec s₀ (tr₁.map Transition.event) = some (tr₁, t.pre) ∧
      M.step t.pre t.event = some (t.post, t.out) ∧
      M.exec t.post (tr₂.map Transition.event) = some (tr₂, s) := by
  induction tr₁ generalizing s₀ es with
  | nil =>
    cases es with
    | nil => simp at h
    | cons e es =>
      obtain ⟨s', o, tr', hs, hx, heq⟩ := (M.exec_cons_eq_some).mp h
      obtain ⟨rfl, rfl⟩ := List.cons.inj heq
      refine ⟨rfl, hs, ?_⟩
      rwa [M.map_event_of_exec hx]
  | cons u tr₁ ih =>
    cases es with
    | nil => simp at h
    | cons e es =>
      obtain ⟨s', o, tr', hs, hx, heq⟩ := (M.exec_cons_eq_some).mp h
      obtain ⟨rfl, rfl⟩ := List.cons.inj heq
      obtain ⟨h₁, h₂⟩ := ih hx
      exact ⟨(M.exec_cons_eq_some).mpr ⟨s', o, tr₁, hs, h₁, rfl⟩, h₂⟩

/-- Every transition of a run is a step taken from the end of the run before it. -/
theorem exec_split {s₀ : σ} {es : List ε} {tr₁ tr₂ : List (Transition σ ε ω)}
    {t : Transition σ ε ω} {s : σ} (h : M.exec s₀ es = some (tr₁ ++ t :: tr₂, s)) :
    M.exec s₀ (tr₁.map Transition.event) = some (tr₁, t.pre) ∧
      M.step t.pre t.event = some (t.post, t.out) :=
  ⟨(M.exec_cut h).1, (M.exec_cut h).2.1⟩

/-- Every transition of a run is a step of the machine. -/
theorem step_of_mem_exec {s₀ : σ} {es : List ε} {tr : List (Transition σ ε ω)} {s : σ}
    (h : M.exec s₀ es = some (tr, s)) {t : Transition σ ε ω} (ht : t ∈ tr) :
    M.step t.pre t.event = some (t.post, t.out) := by
  obtain ⟨tr₁, tr₂, rfl⟩ := List.append_of_mem ht
  exact (M.exec_split h).2

/-- Between two transitions of a run there is a run from the state after the one to the state before
the other. -/
theorem exec_between {s₀ : σ} {es : List ε} {tr₁ mid tr₂ : List (Transition σ ε ω)}
    {t u : Transition σ ε ω} {s : σ} (h : M.exec s₀ es = some (tr₁ ++ t :: (mid ++ u :: tr₂), s)) :
    M.exec t.post (mid.map Transition.event) = some (mid, u.pre) :=
  (M.exec_split (M.exec_cut h).2.2).1

/-- **The last write.** If every step writes a part of the state or leaves it as it is, then at the
end of a run that part is what was last written, or what it was at the start. -/
theorem eq_last_write {β : Type*} {f : σ → β} {w : σ → ε → Option β}
    (hstep : ∀ s e s' o, M.step s e = some (s', o) → f s' = (w s e).getD (f s))
    {s₀ s : σ} {es : List ε} {tr : List (Transition σ ε ω)} (h : M.exec s₀ es = some (tr, s)) :
    f s = (tr.filterMap fun t => w t.pre t.event).getLast?.getD (f s₀) := by
  refine M.exec_induction
    (P := fun _ tr s => f s = (tr.filterMap fun t => w t.pre t.event).getLast?.getD (f s₀))
    rfl ?_ h
  intro es tr s e s' o _ ih hs
  rw [hstep s e s' o hs, List.filterMap_append]
  cases hw : w s e with
  | none => simp [hw, ih]
  | some b => simp [hw]

/-! ## Properties of every prefix of a run -/

/-- The run of `es` from `s₀` is defined, and `Q` holds of its history and its end. -/
def Holds (Q : List (Transition σ ε ω) → σ → Prop) (s₀ : σ) (es : List ε) : Prop :=
  ∃ tr s, M.exec s₀ es = some (tr, s) ∧ Q tr s

/-- Every event of `es` that the run from `s₀` meets satisfies `G` in the state it is met in. -/
def Guarded (G : σ → ε → Prop) (s₀ : σ) (es : List ε) : Prop :=
  ∀ es' e, es' ++ [e] <+: es → ∀ tr s, M.exec s₀ es' = some (tr, s) → G s e

variable {M}

/-- A guarded run is guarded up to each of its prefixes. -/
theorem Guarded.mono {G : σ → ε → Prop} {s₀ : σ} {es es' : List ε}
    (h : M.Guarded G s₀ es) (hp : es' <+: es) : M.Guarded G s₀ es' :=
  fun es'' e hp' => h es'' e (hp'.trans hp)

/-- A guarded run satisfies an invariant that every guarded step keeps, and is defined.

**Proof sketch.** Induction on the list of events, from its end. -/
theorem Guarded.holds {G : σ → ε → Prop} {P : List (Transition σ ε ω) → σ → Prop} {s₀ : σ}
    (h0 : P [] s₀)
    (hP : ∀ tr s e, P tr s → G s e →
      ∃ s' o, M.step s e = some (s', o) ∧ P (tr ++ [⟨s, e, o, s'⟩]) s') :
    ∀ {es}, M.Guarded G s₀ es → M.Holds P s₀ es := by
  intro es
  induction es using List.reverseRecOn with
  | nil => exact fun _ => ⟨[], s₀, rfl, h0⟩
  | append_singleton es e ih =>
    intro hg
    obtain ⟨tr, s, hx, hPs⟩ := ih (hg.mono (List.prefix_append es [e]))
    obtain ⟨s', o, hs, hP'⟩ := hP tr s e hPs (hg es e (List.prefix_refl _) tr s hx)
    exact ⟨_, s', (M.exec_snoc_eq_some).mpr ⟨tr, s, o, hx, hs, rfl⟩, hP'⟩

/-- **Exact guards.** Suppose `P` is an invariant of the guarded steps that gives `Q`, and that
a step from a state with `P` that arrives in `Q` was guarded. Then `Q` holds after every prefix
of a run if and only if each of its steps is guarded.

**Proof sketch.** From right to left this is `Guarded.holds`. From left to right, go along the
run: the steps before are guarded, so `P` holds, and `Q` after the next step gives its guard. -/
theorem holds_iff_guarded {G : σ → ε → Prop} {P Q : List (Transition σ ε ω) → σ → Prop} {s₀ : σ}
    (h0 : P [] s₀)
    (hP : ∀ tr s e, P tr s → G s e →
      ∃ s' o, M.step s e = some (s', o) ∧ P (tr ++ [⟨s, e, o, s'⟩]) s')
    (hPQ : ∀ tr s, P tr s → Q tr s)
    (hQ : ∀ tr s e s' o, P tr s → M.step s e = some (s', o) →
      Q (tr ++ [⟨s, e, o, s'⟩]) s' → G s e) (es : List ε) :
    (∀ es', es' <+: es → M.Holds Q s₀ es') ↔ M.Guarded G s₀ es := by
  constructor
  · intro h
    have key : ∀ es', es' <+: es → M.Guarded G s₀ es' := by
      intro es'
      induction es' using List.reverseRecOn with
      | nil => exact fun _ es'' e hp => by simp at hp
      | append_singleton es' e ih =>
        intro hp es'' e' hp'
        have hg := ih ((List.prefix_append es' [e]).trans hp)
        rcases List.prefix_concat_iff.mp hp' with heq | hlt
        · obtain ⟨rfl, he⟩ := List.append_inj' heq rfl
          obtain rfl : e' = e := by simpa using he
          intro tr s hx
          obtain ⟨tr₁, s₁, hx₁, hPs⟩ := Guarded.holds h0 hP hg
          obtain ⟨rfl, rfl⟩ : tr₁ = tr ∧ s₁ = s := by
            have := hx₁.symm.trans hx
            simpa using this
          obtain ⟨tr', s', hx', hQ'⟩ := h _ hp
          obtain ⟨tr₂, s₂, o, hx₂, hs, rfl⟩ := (M.exec_snoc_eq_some).mp hx'
          obtain ⟨rfl, rfl⟩ : tr₂ = tr₁ ∧ s₂ = s₁ := by
            have := hx₂.symm.trans hx₁
            simpa using this
          exact hQ _ _ _ _ _ hPs hs hQ'
        · exact hg es'' e' hlt
    exact key es (List.prefix_refl es)
  · intro hg es' hp
    obtain ⟨tr, s, hx, hPs⟩ := Guarded.holds h0 hP (hg.mono hp)
    exact ⟨tr, s, hx, hPQ tr s hPs⟩

/-! ## Properties of the states of a defined run -/

/-- If, from a state with `P`, a step keeps `P` exactly when it is guarded, then `P` holds in
every state of a run if and only if every step of it is guarded. -/
theorem forall_post_iff {P : σ → Prop} {G : σ → ε → Prop}
    (hstep : ∀ s e s' o, P s → M.step s e = some (s', o) → (P s' ↔ G s e)) :
    ∀ {es : List ε} {s₀ s : σ} {tr : List (Transition σ ε ω)}, P s₀ →
      M.exec s₀ es = some (tr, s) →
      ((∀ t ∈ tr, P t.post) ↔ ∀ t ∈ tr, G t.pre t.event) := by
  intro es
  induction es with
  | nil =>
    intro s₀ s tr _ h
    simp only [exec_nil, Option.some.injEq, Prod.mk.injEq] at h
    simp [← h.1]
  | cons e es ih =>
    intro s₀ s tr h0 h
    obtain ⟨s', o, tr', hs, hx, rfl⟩ := (M.exec_cons_eq_some).mp h
    simp only [List.forall_mem_cons]
    have he := hstep s₀ e s' o h0 hs
    constructor
    · rintro ⟨hP', hrest⟩
      exact ⟨he.mp hP', (ih hP' hx).mp hrest⟩
    · rintro ⟨hG, hrest⟩
      exact ⟨he.mpr hG, (ih (he.mpr hG) hx).mpr hrest⟩

/-- The state of a run after its first transitions. -/
def stateAfter (s₀ : σ) (tr : List (Transition σ ε ω)) : σ :=
  (tr.getLast?.map Transition.post).getD s₀

/-- After a last transition the run is in the state after it. -/
@[simp] theorem stateAfter_concat (s₀ : σ) (tr : List (Transition σ ε ω))
    (t : Transition σ ε ω) : stateAfter s₀ (tr ++ [t]) = t.post := by
  simp [stateAfter]

/-- The last state of a run is the state after all its transitions. -/
theorem stateAfter_of_exec {s₀ s : σ} {es : List ε} {tr : List (Transition σ ε ω)}
    (h : M.exec s₀ es = some (tr, s)) : stateAfter s₀ tr = s := by
  refine M.exec_induction (P := fun _ tr s => stateAfter s₀ tr = s) rfl ?_ h
  intro es tr s e s' o _ _ _
  simp

/-- **Weak until, step by step.** Along a run, "whenever `Q` holds it goes on to hold until a
transition with `R`" is the same as "each transition from a state with `Q` has `R` or arrives
in a state with `Q`".

**Proof sketch.** A single transition is the run between two neighbouring states. Conversely
walk along the second part of the run, by induction on it from its end. -/
theorem persists_iff {Q : σ → Prop} {R : Transition σ ε ω → Prop} {s₀ s : σ} {es : List ε}
    {tr : List (Transition σ ε ω)} (h : M.exec s₀ es = some (tr, s)) :
    (∀ tr₁ tr₂ tr₃, tr = tr₁ ++ tr₂ ++ tr₃ → Q (stateAfter s₀ tr₁) →
        (∃ t ∈ tr₂, R t) ∨ Q (stateAfter s₀ (tr₁ ++ tr₂))) ↔
      ∀ t ∈ tr, Q t.pre → R t ∨ Q t.post := by
  constructor
  · intro hp t ht hQ
    obtain ⟨tr₁, tr₃, rfl⟩ := List.append_of_mem ht
    have hpre : stateAfter s₀ tr₁ = t.pre := stateAfter_of_exec (M.exec_split h).1
    have := hp tr₁ [t] tr₃ (by simp) (hpre ▸ hQ)
    simpa using this
  · intro hs tr₁ tr₂
    induction tr₂ using List.reverseRecOn with
    | nil => exact fun _ _ hQ => Or.inr (by simpa using hQ)
    | append_singleton tr₂ t ih =>
      intro tr₃ heq hQ
      have hsplit : tr = (tr₁ ++ tr₂) ++ t :: tr₃ := by simp [heq]
      rcases ih (t :: tr₃) hsplit hQ with ⟨u, hu, hR⟩ | hQ'
      · exact Or.inl ⟨u, by simp [hu], hR⟩
      · rw [hsplit] at h
        rw [stateAfter_of_exec (M.exec_split h).1] at hQ'
        rcases hs t (by simp [hsplit]) hQ' with hR | hQt
        · exact Or.inl ⟨t, by simp, hR⟩
        · right
          rw [← List.append_assoc, stateAfter_concat]
          exact hQt

/-! ## Runs that go on after an undefined step -/

section Stray

variable (M) (stray : σ → ε → ω → σ → Prop)

/-- A step of the machine, or one of the relation `stray` where the machine has none. -/
inductive Proceeds (s : σ) (e : ε) : ω → σ → Prop
  | defined {o : ω} {s' : σ} (hs : M.step s e = some (s', o)) : Proceeds s e o s'
  | stray {o : ω} {s' : σ} (hs : M.step s e = none) (h : stray s e o s') : Proceeds s e o s'

/-- A run of such steps, with its history. -/
inductive StrayRun (s₀ : σ) : List (Transition σ ε ω) → σ → Prop
  | nil : StrayRun s₀ [] s₀
  | snoc {tr : List (Transition σ ε ω)} {s s' : σ} {e : ε} {o : ω} (hrun : StrayRun s₀ tr s)
    (hstep : Proceeds M stray s e o s') : StrayRun s₀ (tr ++ [⟨s, e, o, s'⟩]) s'

variable {M stray}

/-- If the relation always leaves some state, every list of events has a run. -/
theorem StrayRun.exists (htotal : ∀ s e, ∃ o s', stray s e o s') (s₀ : σ) (es : List ε) :
    ∃ tr s, StrayRun M stray s₀ tr s ∧ tr.map Transition.event = es := by
  induction es using List.reverseRecOn with
  | nil => exact ⟨[], s₀, .nil, rfl⟩
  | append_singleton es e ih =>
    obtain ⟨tr, s, hrun, hes⟩ := ih
    have hstep : ∃ o s', Proceeds M stray s e o s' := by
      cases hs : M.step s e with
      | none =>
        obtain ⟨o, s', h⟩ := htotal s e
        exact ⟨o, s', .stray hs h⟩
      | some r => exact ⟨r.2, r.1, .defined hs⟩
    obtain ⟨o, s', hstep⟩ := hstep
    exact ⟨_, s', hrun.snoc hstep, by simp [hes]⟩

/-- **The invariant rule** for these runs: the steps of the machine keep the invariant, and so does
what the relation leaves where the machine has no step. -/
theorem StrayRun.invariant {s₀ : σ} {P : List (Transition σ ε ω) → σ → Prop} (h0 : P [] s₀)
    (hdefined : ∀ tr s e s' o, P tr s → M.step s e = some (s', o) →
      P (tr ++ [⟨s, e, o, s'⟩]) s')
    (hstray : ∀ tr s e s' o, P tr s → M.step s e = none → stray s e o s' →
      P (tr ++ [⟨s, e, o, s'⟩]) s')
    {tr : List (Transition σ ε ω)} {s : σ} (hrun : StrayRun M stray s₀ tr s) : P tr s := by
  induction hrun with
  | nil => exact h0
  | snoc _ hstep ih =>
    cases hstep with
    | defined hs => exact hdefined _ _ _ _ _ ih hs
    | stray hs h => exact hstray _ _ _ _ _ ih hs h

end Stray

end EventMachine
