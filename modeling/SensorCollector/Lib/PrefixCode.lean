import Mathlib.Data.List.Basic

set_option relaxedAutoImplicit false
set_option autoImplicit false

/-!
# Prefix codes

Elements that are written one after another without anything between them. A decoder takes one
element off the front of what it is given, if a whole one is there; it need not take all elements
that can be written. Reading on until nothing more can be taken splits the input into the elements
and a rest, in one way only.

## Main definitions

* `PrefixCode` — an encoder and a decoder of single elements, and the elements they agree on.
* `PrefixCode.Splits` — the elements at the front of an input, and the rest.

## Main results

* `PrefixCode.exists_splits`, `PrefixCode.Splits.unique` — every input splits in exactly one way.
-/

/-- An encoder and a decoder of single elements. -/
structure PrefixCode (ε β : Type*) where
  /-- The elements that the decoder takes. -/
  Admits : ε → Prop
  encode : ε → List β
  /-- The first element and what comes after it. -/
  next : List β → Option (ε × List β)
  encode_ne_nil : ∀ e, encode e ≠ []
  next_encode : ∀ e, Admits e → ∀ rest, next (encode e ++ rest) = some (e, rest)
  of_next : ∀ bs e rest, next bs = some (e, rest) → Admits e ∧ bs = encode e ++ rest

namespace PrefixCode

variable {ε β : Type*} (code : PrefixCode ε β)

/-- The elements, written one after another. -/
def encodeAll (es : List ε) : List β := es.flatMap code.encode

@[simp] theorem encodeAll_nil : code.encodeAll [] = [] := rfl

@[simp] theorem encodeAll_cons (e : ε) (es : List ε) :
    code.encodeAll (e :: es) = code.encode e ++ code.encodeAll es := rfl

/-- The elements at the front of an input, up to a rest from which no element can be taken. -/
structure Splits (bs : List β) (es : List ε) (rest : List β) : Prop where
  eq : bs = code.encodeAll es ++ rest
  admits : ∀ e ∈ es, code.Admits e
  stuck : code.next rest = none

variable {code}

/-- An input from which no element can be taken is all rest. -/
theorem splits_nil {rest : List β} : code.Splits rest [] rest ↔ code.next rest = none :=
  ⟨fun h => h.stuck, fun h => ⟨rfl, by simp, h⟩⟩

/-- The first element that an input splits into is the one that the decoder takes. -/
theorem splits_cons {bs : List β} {e : ε} {es : List ε} {rest : List β} :
    code.Splits bs (e :: es) rest ↔
      ∃ mid, code.next bs = some (e, mid) ∧ code.Splits mid es rest := by
  constructor
  · intro h
    refine ⟨code.encodeAll es ++ rest, ?_, rfl, fun e' he' => h.admits e' (by simp [he']),
      h.stuck⟩
    rw [h.eq, encodeAll_cons, List.append_assoc]
    exact code.next_encode e (h.admits e (by simp)) _
  · rintro ⟨mid, hnext, hsplit⟩
    obtain ⟨hadm, rfl⟩ := code.of_next _ _ _ hnext
    refine ⟨?_, ?_, hsplit.stuck⟩
    · rw [encodeAll_cons, List.append_assoc, ← hsplit.eq]
    · rw [List.forall_mem_cons]
      exact ⟨hadm, hsplit.admits⟩

/-- **Every input splits** into elements and a rest.

**Proof sketch.** Induction on the length of the input: an element that is taken has been written
with at least one symbol. -/
theorem exists_splits (code : PrefixCode ε β) (bs : List β) :
    ∃ es rest, code.Splits bs es rest := by
  induction hn : bs.length using Nat.strongRecOn generalizing bs with
  | _ n ih =>
    cases hnext : code.next bs with
    | none => exact ⟨[], bs, splits_nil.mpr hnext⟩
    | some r =>
      obtain ⟨e, mid⟩ := r
      obtain ⟨-, hbs⟩ := code.of_next _ _ _ hnext
      have hpos : 0 < (code.encode e).length := List.length_pos_iff.mpr (code.encode_ne_nil e)
      have hlt : mid.length < n := by
        rw [← hn, hbs, List.length_append]
        omega
      obtain ⟨es, rest, hsplit⟩ := ih mid.length hlt mid rfl
      exact ⟨e :: es, rest, splits_cons.mpr ⟨mid, hnext, hsplit⟩⟩

/-- **An input splits in one way only.** -/
theorem Splits.unique {bs : List β} {es es' : List ε} {rest rest' : List β}
    (h : code.Splits bs es rest) (h' : code.Splits bs es' rest') : es = es' ∧ rest = rest' := by
  induction es generalizing bs es' with
  | nil =>
    obtain rfl : bs = rest := by simpa using h.eq
    cases es' with
    | nil => exact ⟨rfl, by simpa using h'.eq⟩
    | cons e' es' =>
      obtain ⟨mid, hnext, -⟩ := splits_cons.mp h'
      rw [h.stuck] at hnext
      cases hnext
  | cons e es ih =>
    obtain ⟨mid, hnext, hsplit⟩ := splits_cons.mp h
    cases es' with
    | nil =>
      obtain rfl : bs = rest' := by simpa using h'.eq
      rw [h'.stuck] at hnext
      cases hnext
    | cons e' es' =>
      obtain ⟨mid', hnext', hsplit'⟩ := splits_cons.mp h'
      rw [hnext] at hnext'
      cases hnext'
      obtain ⟨rfl, rfl⟩ := ih hsplit hsplit'
      exact ⟨rfl, rfl⟩

end PrefixCode
