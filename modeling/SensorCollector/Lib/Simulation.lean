import SensorCollector.Lib.EventMachine

set_option relaxedAutoImplicit false
set_option autoImplicit false

/-!
# Simulation of runs

Two machines are compared step by step, and from the comparison of single steps follows that of
whole runs.

## Main results

* `EventMachine.exec_of_implements` — if one machine does what another one asks for, it has the same
  runs, with the same outputs.
* `EventMachine.exec_of_abstracts` — if every step of a machine is a step of another one or leaves
  it where it is, every run is a run of the other one.
-/

namespace EventMachine

variable {σ τ ε ε' ω ω' γ : Type*}

/-- **One machine implements another.** If from related states every step of `N` is one of `M` with
the same output, and leads to related states again, then every run of `N` is one of `M` with the
same outputs.

**Proof sketch.** Induction on the events. -/
theorem exec_of_implements {M : EventMachine σ ε ω} {N : EventMachine τ ε ω} {R : σ → τ → Prop}
    (hstep : ∀ s t e t' o, R s t → N.step t e = some (t', o) →
      ∃ s', M.step s e = some (s', o) ∧ R s' t') :
    ∀ {es : List ε} {s : σ} {t t' : τ} {trN : List (Transition τ ε ω)}, R s t →
      N.exec t es = some (trN, t') →
      ∃ trM s', M.exec s es = some (trM, s') ∧ R s' t' ∧
        trM.map Transition.out = trN.map Transition.out := by
  intro es
  induction es with
  | nil =>
    intro s t t' trN hR hx
    obtain ⟨rfl, rfl⟩ := Prod.mk.inj (Option.some.inj hx)
    exact ⟨[], s, rfl, hR, rfl⟩
  | cons e es ih =>
    intro s t t' trN hR hx
    obtain ⟨t₁, o, tr', hs, hx', rfl⟩ := (N.exec_cons_eq_some).mp hx
    obtain ⟨s₁, hs₁, hR₁⟩ := hstep s t e t₁ o hR hs
    obtain ⟨trM, s', hxM, hR', hout⟩ := ih hR₁ hx'
    exact ⟨_, s', (M.exec_cons_eq_some).mpr ⟨s₁, o, trM, hs₁, hxM, rfl⟩, hR', by simp [hout]⟩

/-- **One machine abstracts from another.** Suppose that from related states every step of `M` is
the step of `N` that `f` names, or leaves the state of `N` as it is where `f` names none, and that
what `g` and `g'` observe of the outputs agrees. Then every run of `M` is a run of `N`, with the
same observations.

**Proof sketch.** Induction on the run, from its end. -/
theorem exec_of_abstracts {M : EventMachine σ ε ω} {N : EventMachine τ ε' ω'} {R : σ → τ → Prop}
    {f : σ → ε → Option ε'} {g : ω → List γ} {g' : ω' → List γ}
    (hstep : ∀ s e s' o t, R s t → M.step s e = some (s', o) →
      match f s e with
      | none => R s' t ∧ g o = []
      | some e' => ∃ t' o', N.step t e' = some (t', o') ∧ R s' t' ∧ g o = g' o')
    {s₀ s : σ} {t₀ : τ} {es : List ε} {tr : List (Transition σ ε ω)} (hR : R s₀ t₀)
    (hx : M.exec s₀ es = some (tr, s)) :
    ∃ trN t, N.exec t₀ (tr.filterMap fun u => f u.pre u.event) = some (trN, t) ∧ R s t ∧
      (trN.flatMap fun u => g' u.out) = tr.flatMap fun u => g u.out := by
  refine M.exec_induction (P := fun _ tr s =>
    ∃ trN t, N.exec t₀ (tr.filterMap fun u => f u.pre u.event) = some (trN, t) ∧ R s t ∧
      (trN.flatMap fun u => g' u.out) = tr.flatMap fun u => g u.out)
    ⟨[], t₀, rfl, hR, rfl⟩ ?_ hx
  intro es tr s e s' o _ ih hs
  obtain ⟨trN, t, hxN, hRt, hout⟩ := ih
  have h := hstep s e s' o t hRt hs
  rw [List.filterMap_append, List.flatMap_append]
  cases hf : f s e with
  | none =>
    rw [hf] at h
    refine ⟨trN, t, by simpa [hf] using hxN, h.1, ?_⟩
    simp [h.2, hout]
  | some e' =>
    rw [hf] at h
    obtain ⟨t', o', hsN, hR', hg⟩ := h
    refine ⟨trN ++ [⟨t, e', o', t'⟩], t', ?_, hR', ?_⟩
    · rw [show [(⟨s, e, o, s'⟩ : Transition σ ε ω)].filterMap (fun u => f u.pre u.event) = [e'] by
        simp [hf]]
      exact (N.exec_snoc_eq_some).mpr ⟨trN, t, o', hxN, hsN, rfl⟩
    · simp [hout, hg]

end EventMachine
