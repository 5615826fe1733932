import Mathlib.Algebra.BigOperators.Intervals
import SensorCollector.Buffer.Spec

set_option relaxedAutoImplicit false
set_option autoImplicit false

/-!
# What the bulk read copies

Which bytes the bulk read copies, and whether reading again and again empties the buffer. The read
takes one segment of at most the number of stored bytes modulo `256`. So it stays inside the stored
bytes unless that segment runs over the end of the block; and it makes no progress where the number
of stored bytes is a multiple of `256`.

## Main definitions

* `SensorCollector.BufferT.InStoredRegion` — the cells of the stored bytes.
* `SensorCollector.ReadsInside` — a bulk read copies stored bytes only, and only as many as it may.
* `SensorCollector.MakesProgress` — a bulk read removes at least one byte.
* `SensorCollector.Drains` — a sequence of bulk reads empties the buffer.

## Main results

* `SensorCollector.readsInside_iff` — when a read stays inside the stored bytes.
* `SensorCollector.makesProgress_iff`, `SensorCollector.drains_iff`,
  `SensorCollector.reads_progress_and_drain_iff` — when it makes progress, and which sequences of
  reads empty the buffer.
-/

namespace SensorCollector

/-! ## Bytes copied by a read -/

/-- The cell `i` holds a stored byte: it lies between the read index and the fill index, around the
end of the block if the fill index is behind. -/
def BufferT.InStoredRegion (buf : BufferT) (i : ℕ) : Prop :=
  (buf.readIndex ≤ i ∧ i < buf.fillIndex) ∨
    (buf.fillIndex < buf.readIndex ∧ i < buf.capacity ∧ (buf.readIndex ≤ i ∨ i < buf.fillIndex))

instance (buf : BufferT) (i : ℕ) : Decidable (buf.InStoredRegion i) :=
  inferInstanceAs (Decidable (_ ∨ _))

/-- A bulk read of `rSize` bytes is defined, writes the user's array only below the smaller of
`rSize` and the number of stored bytes, and depends on the stored bytes only: with another block
that holds the same stored bytes, at any address, it does the same. A copy of negative length is one
of nearly `2³²` bytes and leaves every block, so it is not defined. -/
def ReadsInside (buf : BufferT) (rSize : ℕ) : Prop :=
  ∀ destBuf : List UInt8, rSize ≤ destBuf.length →
    ∃ n destBuf' buf', bufferReadMultiple destBuf buf rSize = some (n, destBuf', buf') ∧
      destBuf'.length = destBuf.length ∧
      (∀ i, min rSize (bufferGetSize buf) ≤ i → destBuf'[i]? = destBuf[i]?) ∧
      ∀ (base : ℕ) (block : List UInt8), block.length = buf.buffer.length →
        (∀ i, buf.InStoredRegion i → block[i]? = buf.buffer[i]?) →
        ∃ buf'', bufferReadMultiple destBuf { buf with base := base, buffer := block } rSize =
          some (n, destBuf', buf'')

/-- The cells of one segment from the read index on hold stored bytes, as far as the bulk read looks
and the block reaches. -/
theorem inStoredRegion_add {buf : BufferT} (h : buf.InRange) {k : ℕ}
    (hk : k < bufferGetSize buf % 256) (hc : buf.readIndex + k < buf.capacity) :
    buf.InStoredRegion (buf.readIndex + k) := by
  have hlt := h.capacity_lt
  have hf := h.fill_lt
  unfold BufferT.InStoredRegion
  rcases Nat.lt_or_ge buf.fillIndex buf.readIndex with hw | hw
  · omega
  · -- with the fill index ahead, the number that is found is at most the distance
    unfold bufferGetSize int32 sizeT at hk
    dsimp only at hk
    split_ifs at hk <;> omega

/-- **When a bulk read stays inside the stored bytes**: if and only if the segment it copies, of the
number of bytes asked for or the number of stored bytes modulo `256`, does not run over the end of
the block. -/
theorem readsInside_iff {buf : BufferT} (h : buf.InRange) (rSize : ℕ) :
    ReadsInside buf rSize ↔
      buf.readIndex + min rSize (bufferGetSize buf % 256) ≤ buf.capacity := by
  constructor
  · intro hin
    obtain ⟨n, destBuf', buf', hread, -⟩ :=
      hin (List.replicate rSize 0) (List.length_replicate).ge
    by_contra hseg
    have hroom : min rSize (bufferGetSize buf % 256) ≤
        (List.replicate rSize (0 : UInt8)).length := by
      rw [List.length_replicate]
      omega
    rw [bufferReadMultiple_of_inRange h hroom, if_neg hseg] at hread
    cases hread
  · intro hseg destBuf hd
    have hle := Nat.mod_le (bufferGetSize buf) 256
    have hlen := h.length_eq
    set n := min rSize (bufferGetSize buf % 256) with hn
    have hsegment : ((buf.buffer.drop buf.readIndex).take n).length = n := by
      apply List.length_take_of_le
      rw [List.length_drop]
      omega
    refine ⟨n, destBuf.blit 0 ((buf.buffer.drop buf.readIndex).take n), _,
      (bufferReadMultiple_of_inRange h (by omega)).trans (if_pos hseg), ?_, ?_, ?_⟩
    · exact List.length_blit (by omega)
    · intro i hi
      rw [List.getElem?_blit (by omega), if_neg (by omega)]
    · intro base block hblock hstored
      -- the other block has the same segment, cell by cell
      have hsame : (block.drop buf.readIndex).take n = (buf.buffer.drop buf.readIndex).take n := by
        apply List.ext_getElem?
        intro k
        rw [List.getElem?_take, List.getElem?_take]
        split_ifs with hk
        · rw [List.getElem?_drop, List.getElem?_drop]
          exact hstored _ (inStoredRegion_add h (by omega) (by omega))
        · rfl
      have h' : BufferT.InRange { buf with base := base, buffer := block } :=
        ⟨hblock.trans hlen, h.capacity_lt, h.read_lt, h.fill_lt⟩
      refine ⟨{ buf with
        base := base, buffer := block, readIndex := (buf.readIndex + n) % buf.capacity }, ?_⟩
      rw [← hsame]
      exact (bufferReadMultiple_of_inRange h' (show n ≤ _ by omega)).trans (if_pos hseg)

/-- A read of two bytes from three that do not wrap. -/
theorem readsInside_iff_four_cells :
    ReadsInside ⟨0, [7, 8, 9, 0], 0, 3, 4⟩ 2 ↔
      0 + min 2 (bufferGetSize ⟨0, [7, 8, 9, 0], 0, 3, 4⟩ % 256) ≤ 4 :=
  readsInside_iff ⟨rfl, by decide, by decide, by decide⟩ 2

/-- A read of two bytes from three that wrap after the first. -/
theorem not_readsInside_wrapped :
    BufferT.InRange ⟨0, [8, 9, 0, 7], 3, 2, 4⟩ ∧ ¬ ReadsInside ⟨0, [8, 9, 0, 7], 3, 2, 4⟩ 2 := by
  refine ⟨⟨rfl, by decide, by decide, by decide⟩, fun hin => ?_⟩
  obtain ⟨n, destBuf', buf', hread, -⟩ := hin [0, 0] le_rfl
  have hundef : bufferReadMultiple [0, 0] ⟨0, [8, 9, 0, 7], 3, 2, 4⟩ 2 = none := by decide
  rw [hundef] at hread
  cases hread

/-! ## Reading until the buffer is empty -/

/-- A call of the bulk read for some bytes, with an array that has room for them. -/
structure ReadCall where
  destBuf : List UInt8
  rSize : ℕ
  /-- There is room for as many bytes as are asked for. -/
  room : rSize ≤ destBuf.length
  /-- Some bytes are asked for. -/
  pos : 0 < rSize

/-- A bulk read of `rSize` bytes returns a number of bytes, no more than were asked for, and removes
as many from the buffer. -/
def MakesProgress (buf : BufferT) (rSize : ℕ) : Prop :=
  ∀ destBuf : List UInt8, rSize ≤ destBuf.length →
    ∃ n destBuf' buf', bufferReadMultiple destBuf buf rSize = some (n, destBuf', buf') ∧
      0 < n ∧ n ≤ rSize ∧ bufferGetSize buf' + n = bufferGetSize buf

/-- The buffer after the first `m` of a sequence of calls. -/
def afterReads (calls : ℕ → ReadCall) : ℕ → BufferT → Option BufferT
  | 0, buf => some buf
  | m + 1, buf =>
    (bufferReadMultiple (calls 0).destBuf buf (calls 0).rSize).bind fun r =>
      afterReads (fun i => calls (i + 1)) m r.2.2

/-- The calls empty the buffer: it stores nothing after finitely many of them. -/
def Drains (calls : ℕ → ReadCall) (buf : BufferT) : Prop :=
  ∃ m buf', afterReads calls m buf = some buf' ∧ bufferGetSize buf' = 0

/-- What a bulk read does: it removes what it takes in one segment, or is undefined. -/
theorem read_cases {buf : BufferT} (h : buf.Wf) {destBuf : List UInt8} {rSize n : ℕ}
    (hd : rSize ≤ destBuf.length) (hn : n = min rSize (bufferGetSize buf % 256)) :
    (buf.readIndex + n ≤ buf.capacity ∧ ∃ destBuf' buf',
      bufferReadMultiple destBuf buf rSize = some (n, destBuf', buf') ∧ buf'.Wf ∧
        buf'.capacity = buf.capacity ∧ buf'.readIndex = (buf.readIndex + n) % buf.capacity ∧
        bufferGetSize buf' = bufferGetSize buf - n) ∨
    (buf.capacity < buf.readIndex + n ∧ bufferReadMultiple destBuf buf rSize = none) := by
  have hle := Nat.mod_le (bufferGetSize buf) 256
  have hcap := BufferT.capacity_ring h
  rw [bufferGetSize_eq h] at hn hle
  have hread := bufferReadMultiple_eq h (show min rSize _ ≤ destBuf.length by omega)
  rw [← hn] at hread
  rcases Nat.lt_or_ge buf.capacity (buf.readIndex + n) with hseg | hseg
  · exact Or.inr ⟨hseg, hread.trans (if_neg (by omega))⟩
  · have hwf := BufferT.wf_withRing h (r := (buf.ring h).skip n) hcap
    refine Or.inl ⟨hseg, _, _, hread.trans (if_pos hseg), hwf, rfl, ?_, ?_⟩
    · change ((buf.ring h).readIndex + min n (buf.ring h).size) % (buf.ring h).capacity = _
      rw [Nat.min_eq_left (by omega), hcap]
      rfl
    · rw [bufferGetSize_eq hwf, BufferT.ring_withRing, RingBuffer.size_skip, bufferGetSize_eq h]

/-- **When a bulk read makes progress**: if and only if the number of stored bytes is no multiple of
`256`, and the segment it copies does not run over the end of the block. -/
theorem makesProgress_iff {buf : BufferT} (h : buf.Wf) (hs : 0 < bufferGetSize buf) {rSize : ℕ}
    (hpos : 0 < rSize) :
    MakesProgress buf rSize ↔ bufferGetSize buf % 256 ≠ 0 ∧
      buf.readIndex + min rSize (bufferGetSize buf % 256) ≤ buf.capacity := by
  have hle := Nat.mod_le (bufferGetSize buf) 256
  constructor
  · intro hprog
    have hd : rSize ≤ (List.replicate rSize (0 : UInt8)).length := (List.length_replicate).ge
    obtain ⟨n, _, _, hread, hn, -, -⟩ := hprog _ hd
    rcases read_cases h hd rfl with ⟨hseg, _, _, hread', -⟩ | ⟨-, hundef⟩
    · obtain ⟨rfl, -⟩ := Prod.mk.inj (Option.some.inj (hread'.symm.trans hread))
      exact ⟨by omega, hseg⟩
    · rw [hundef] at hread
      cases hread
  · rintro ⟨hmod, hseg⟩ destBuf hd
    rcases read_cases h hd rfl with ⟨-, destBuf', buf', hread, -, -, -, hsize⟩ | ⟨hout, -⟩
    · exact ⟨_, destBuf', buf', hread, by omega, by omega, by omega⟩
    · exact absurd hseg (not_le.mpr hout)

/-- A sequence of calls empties the buffer if it is empty, or if the first call is defined and the
others empty what it leaves. -/
theorem drains_iff_or {calls : ℕ → ReadCall} {buf : BufferT} :
    Drains calls buf ↔ bufferGetSize buf = 0 ∨
      ∃ r, bufferReadMultiple (calls 0).destBuf buf (calls 0).rSize = some r ∧
        Drains (fun i => calls (i + 1)) r.2.2 := by
  constructor
  · rintro ⟨m, buf', hafter, hempty⟩
    cases m with
    | zero =>
      obtain rfl : buf = buf' := Option.some.inj hafter
      exact Or.inl hempty
    | succ m =>
      obtain ⟨r, hread, hrest⟩ := Option.bind_eq_some_iff.mp hafter
      exact Or.inr ⟨r, hread, m, buf', hrest, hempty⟩
  · rintro (hempty | ⟨r, hread, m, buf', hrest, hempty⟩)
    · exact ⟨0, buf, rfl, hempty⟩
    · exact ⟨m + 1, buf', Option.bind_eq_some_iff.mpr ⟨r, hread, hrest⟩, hempty⟩

/-- Calls never take the number of stored bytes below a multiple of `256`. -/
theorem size_div_of_afterReads {m : ℕ} {calls : ℕ → ReadCall} {buf buf' : BufferT} (h : buf.Wf)
    (hafter : afterReads calls m buf = some buf') :
    bufferGetSize buf' / 256 = bufferGetSize buf / 256 := by
  induction m generalizing calls buf with
  | zero =>
    obtain rfl : buf = buf' := Option.some.inj hafter
    rfl
  | succ m ih =>
    obtain ⟨r, hread, hrest⟩ := Option.bind_eq_some_iff.mp hafter
    rcases read_cases h (calls 0).room rfl with
      ⟨-, destBuf', buf₁, hread', hwf, -, -, hsize⟩ | ⟨-, hundef⟩
    · obtain rfl : _ = r := Option.some.inj (hread'.symm.trans hread)
      rw [ih hwf hrest]
      omega
    · rw [hundef] at hread
      cases hread

/-- A sequence of calls empties a buffer of fewer than `256` bytes if they do not wrap, or if some
of the calls together take exactly what is stored up to the end of the block.

**Proof sketch.** Induction on the number of stored bytes, by the first call. If it takes less than
the way to the end of the block, the other calls have the same way to go less what it has taken. -/
theorem drains_iff_of_lt {calls : ℕ → ReadCall} {buf : BufferT} (h : buf.Wf)
    (hlt : bufferGetSize buf < 256) :
    Drains calls buf ↔ buf.readIndex + bufferGetSize buf ≤ buf.capacity ∨
      ∃ m, ∑ i ∈ Finset.range m, (calls i).rSize = buf.capacity - buf.readIndex := by
  induction hs : bufferGetSize buf using Nat.strong_induction_on generalizing buf calls with
  | _ s ih =>
    subst hs
    have hr := h.read_lt
    have hpos := (calls 0).pos
    have hsucc := Finset.sum_range_succ' fun i => (calls i).rSize
    have hmax : bufferGetSize buf < buf.capacity := by
      have := (buf.ring h).size_lt_capacity
      rwa [BufferT.capacity_ring h, ← bufferGetSize_eq h] at this
    have hsums : (∃ m, ∑ i ∈ Finset.range m, (calls i).rSize = buf.capacity - buf.readIndex) ↔
        ∃ m, ∑ i ∈ Finset.range m, (calls (i + 1)).rSize + (calls 0).rSize =
          buf.capacity - buf.readIndex := by
      constructor
      · rintro ⟨m, hm⟩
        cases m with
        | zero =>
          rw [Finset.sum_range_zero] at hm
          omega
        | succ m => exact ⟨m, by rw [← hsucc, hm]⟩
      · rintro ⟨m, hm⟩
        exact ⟨m + 1, by rw [hsucc, hm]⟩
    rcases Nat.eq_zero_or_pos (bufferGetSize buf) with hs0 | hs0
    · exact iff_of_true (drains_iff_or.mpr (Or.inl hs0)) (Or.inl (by omega))
    · rw [drains_iff_or, or_iff_right (by omega), hsums]
      rcases read_cases h (calls 0).room rfl with
        ⟨hseg, destBuf', buf', hread, hwf, hcap, hri, hsize⟩ | ⟨hseg, hundef⟩
      · have hrest : (∃ r, bufferReadMultiple (calls 0).destBuf buf (calls 0).rSize = some r ∧
            Drains (fun i => calls (i + 1)) r.2.2) ↔ Drains (fun i => calls (i + 1)) buf' := by
          simp [hread]
        rw [Nat.mod_eq_of_lt hlt] at hseg hri hsize
        rw [hrest, ih _ (by omega) hwf (by omega) rfl, hcap, hsize]
        rcases Nat.lt_or_ge (calls 0).rSize (bufferGetSize buf) with hless | hall
        · rw [Nat.min_eq_left hless.le] at hseg hri ⊢
          rcases Nat.lt_or_eq_of_le hseg with hbelow | hend
          · rw [hri, Nat.mod_eq_of_lt hbelow]
            refine or_congr (by omega) (exists_congr fun m => ?_)
            omega
          · rw [hri, hend, Nat.mod_self]
            refine iff_of_true (Or.inl (by omega)) (Or.inr ⟨0, ?_⟩)
            rw [Finset.sum_range_zero]
            omega
        · rw [Nat.min_eq_right hall] at hseg ⊢
          have hr' := hwf.read_lt
          exact iff_of_true (Or.inl (by omega)) (Or.inl hseg)
      · rw [Nat.mod_eq_of_lt hlt] at hseg
        refine iff_of_false ?_ ?_
        · rintro ⟨r, hread, -⟩
          rw [hundef] at hread
          cases hread
        · rintro (hlin | ⟨m, hm⟩) <;> omega

/-- **Which sequences of calls empty the buffer**: it stores fewer than `256` bytes, and they do not
wrap, or some of the calls together take exactly what is stored up to the end of the block. -/
theorem drains_iff {calls : ℕ → ReadCall} {buf : BufferT} (h : buf.Wf) :
    Drains calls buf ↔ bufferGetSize buf < 256 ∧
      (buf.readIndex + bufferGetSize buf ≤ buf.capacity ∨
        ∃ m, ∑ i ∈ Finset.range m, (calls i).rSize = buf.capacity - buf.readIndex) := by
  by_cases hlt : bufferGetSize buf < 256
  · rw [drains_iff_of_lt h hlt, and_iff_right hlt]
  · refine iff_of_false ?_ fun hand => hlt hand.1
    rintro ⟨m, buf', hafter, hempty⟩
    have hdiv := size_div_of_afterReads h hafter
    omega

/-- **Progress and draining, exactly.** On a buffer with stored bytes, a bulk read makes progress if
and only if the number of stored bytes is no multiple of `256` and the segment it copies does not
run over the end of the block. Reading again and again empties the buffer if and only if it stores
fewer than `256` bytes, and these do not wrap or some of the calls together take exactly what is
stored up to the end of the block. -/
theorem reads_progress_and_drain_iff {buf : BufferT} (h : buf.Wf) (hs : 0 < bufferGetSize buf) :
    (∀ rSize, 0 < rSize → (MakesProgress buf rSize ↔ bufferGetSize buf % 256 ≠ 0 ∧
      buf.readIndex + min rSize (bufferGetSize buf % 256) ≤ buf.capacity)) ∧
    ∀ calls : ℕ → ReadCall, Drains calls buf ↔ bufferGetSize buf < 256 ∧
      (buf.readIndex + bufferGetSize buf ≤ buf.capacity ∨
        ∃ m, ∑ i ∈ Finset.range m, (calls i).rSize = buf.capacity - buf.readIndex) :=
  ⟨fun _ hpos => makesProgress_iff h hs hpos, fun _ => drains_iff h⟩

/-- Three bytes that do not wrap. -/
theorem reads_progress_and_drain_iff_four_cells :
    (∀ rSize, 0 < rSize → (MakesProgress ⟨0, [7, 8, 9, 0], 0, 3, 4⟩ rSize ↔
      bufferGetSize ⟨0, [7, 8, 9, 0], 0, 3, 4⟩ % 256 ≠ 0 ∧
        0 + min rSize (bufferGetSize ⟨0, [7, 8, 9, 0], 0, 3, 4⟩ % 256) ≤ 4)) ∧
    ∀ calls : ℕ → ReadCall, Drains calls ⟨0, [7, 8, 9, 0], 0, 3, 4⟩ ↔
      bufferGetSize ⟨0, [7, 8, 9, 0], 0, 3, 4⟩ < 256 ∧
        (0 + bufferGetSize ⟨0, [7, 8, 9, 0], 0, 3, 4⟩ ≤ 4 ∨
          ∃ m, ∑ i ∈ Finset.range m, (calls i).rSize = 4 - 0) :=
  reads_progress_and_drain_iff ⟨rfl, by decide, by decide, by decide⟩ (by decide)

/-- A receive buffer that stores `256` bytes: a read of them all returns nothing, and no sequence of
reads empties the buffer. -/
theorem not_makesProgress_of_256 :
    ¬ MakesProgress ⟨0, List.replicate 1024 7, 0, 256, 1024⟩ 256 ∧
      ∀ calls : ℕ → ReadCall, ¬ Drains calls ⟨0, List.replicate 1024 7, 0, 256, 1024⟩ := by
  have hwf : BufferT.Wf ⟨0, List.replicate 1024 7, 0, 256, 1024⟩ :=
    ⟨List.length_replicate, by decide, by decide, by decide⟩
  have hsize : bufferGetSize ⟨0, List.replicate 1024 7, 0, 256, 1024⟩ = 256 := rfl
  constructor
  · rw [makesProgress_iff hwf (by rw [hsize]; decide) (by decide), hsize]
    decide
  · intro calls
    rw [drains_iff hwf, hsize]
    exact fun hand => absurd hand.1 (by decide)

end SensorCollector
