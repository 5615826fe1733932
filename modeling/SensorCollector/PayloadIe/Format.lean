import Mathlib.Algebra.Group.Nat.Defs
import SensorCollector.Lib.PrefixCode
import SensorCollector.PayloadIe.Defs

set_option relaxedAutoImplicit false
set_option autoImplicit false

/-!
# The format of information elements

An element is a header of two bytes and its contents. The header has the length of the contents in
its low bits, then the identifier, and the type in its highest bit. A short element has eight bits
for the length and seven for the identifier, a long one eleven and four.

In a group only long elements are read, up to the one that terminates it.

## Main definitions

* `SensorCollector.Ie`, `SensorCollector.Ie.encode` — an element, and its bytes.
* `SensorCollector.ieCode` — the elements as a prefix code.

## Main results

* `SensorCollector.getSubieType_header` and its siblings — what the macros read from a header.
-/

namespace SensorCollector

/-- An information element. Its identifier and its length fit into the header. -/
structure Ie where
  typeLong : Bool
  id : ℕ
  content : List UInt8
  id_lt : id < if typeLong then 16 else 128
  length_lt : content.length < if typeLong then 2048 else 256
  deriving DecidableEq

/-- The second byte of the header of an element. -/
def Ie.high (ie : Ie) : ℕ :=
  if ie.typeLong then 128 + 8 * ie.id + ie.content.length / 256 else ie.id

/-- The bytes of an element. -/
def Ie.encode (ie : Ie) : List UInt8 :=
  UInt8.ofNat ie.content.length :: UInt8.ofNat ie.high :: ie.content

/-- The number of bytes of an element. -/
@[simp] theorem Ie.length_encode (ie : Ie) : ie.encode.length = ie.content.length + 2 := rfl

/-! ## Reading a header -/

/-- The type in a header. -/
def headerLong (high : UInt8) : Bool := 128 ≤ high.toNat

/-- The identifier in a header. -/
def headerId (high : UInt8) : ℕ :=
  if headerLong high then high.toNat / 8 % 16 else high.toNat

/-- The length in a header. -/
def headerLen (low high : UInt8) : ℕ :=
  if headerLong high then low.toNat + 256 * (high.toNat % 8) else low.toNat

/-- The identifier in a header fits into it. -/
theorem headerId_lt (high : UInt8) : headerId high < if headerLong high then 16 else 128 := by
  rw [headerId]
  cases hlong : headerLong high with
  | true =>
    simp only [if_true]
    exact Nat.mod_lt _ (by decide)
  | false =>
    simp only [headerLong, decide_eq_false_iff_not, not_le] at hlong
    simpa using hlong

/-- The length in a header fits into it. -/
theorem headerLen_lt (low high : UInt8) :
    headerLen low high < if headerLong high then 2048 else 256 := by
  have hlow : low.toNat < 256 := low.toNat_lt
  rw [headerLen]
  cases headerLong high with
  | true =>
    simp only [if_true]
    omega
  | false => simpa using hlow

/-- The header of an element has its type. -/
theorem headerLong_high (ie : Ie) : headerLong (UInt8.ofNat ie.high) = ie.typeLong := by
  obtain ⟨long, id, content, hid, hlen⟩ := ie
  cases long with
  | true =>
    simp only [if_true] at hid hlen
    have hlt : 128 + 8 * id + content.length / 256 < 256 := by omega
    simp only [headerLong, Ie.high, if_true, UInt8.toNat_ofNat', decide_eq_true_eq]
    omega
  | false =>
    simp only [if_neg (show ¬ false = true by decide)] at hid
    simp only [headerLong, Ie.high, UInt8.toNat_ofNat', decide_eq_false_iff_not,
      if_neg (show ¬ false = true by decide)]
    omega

/-- The header of an element has its identifier. -/
theorem headerId_high (ie : Ie) : headerId (UInt8.ofNat ie.high) = ie.id := by
  rw [headerId, headerLong_high]
  obtain ⟨long, id, content, hid, hlen⟩ := ie
  cases long with
  | true =>
    simp only [if_true] at hid hlen
    simp only [Ie.high, if_true, UInt8.toNat_ofNat']
    omega
  | false =>
    simp only [if_neg (show ¬ false = true by decide)] at hid
    simp only [Ie.high, UInt8.toNat_ofNat', if_neg (show ¬ false = true by decide)]
    omega

/-- The header of an element has the length of its contents. -/
theorem headerLen_encode (ie : Ie) :
    headerLen (UInt8.ofNat ie.content.length) (UInt8.ofNat ie.high) = ie.content.length := by
  rw [headerLen, headerLong_high]
  obtain ⟨long, id, content, hid, hlen⟩ := ie
  cases long with
  | true =>
    simp only [if_true] at hid hlen
    simp only [Ie.high, if_true, UInt8.toNat_ofNat']
    omega
  | false =>
    simp only [if_neg (show ¬ false = true by decide)] at hlen
    simp only [UInt8.toNat_ofNat', if_neg (show ¬ false = true by decide)]
    omega

/-! ## What the macros read -/

/-- The two bytes of a header as one number. -/
theorem toNat_makeUint16 (low high : UInt8) :
    (makeUint16 low high).toNat = low.toNat + 256 * high.toNat := by
  have hlow : low.toNat < 2 ^ 8 := low.toNat_lt
  have hhigh : high.toNat < 2 ^ 8 := high.toNat_lt
  have hshift : (high.toUInt16 <<< 8).toNat = 2 ^ 8 * high.toNat := by
    rw [UInt16.toNat_shiftLeft, UInt8.toNat_toUInt16]
    show high.toNat <<< 8 % 2 ^ 16 = _
    rw [Nat.shiftLeft_eq, Nat.mod_eq_of_lt (by omega), Nat.mul_comm]
  rw [makeUint16, UInt16.toNat_or, hshift, UInt8.toNat_toUInt16, Nat.or_comm,
    ← Nat.two_pow_add_eq_or_of_lt hlow]
  omega

/-- A field of a number. -/
theorem toNat_ieUnpacking (var size position : UInt16) (hs : size.toNat < 16)
    (hp : position.toNat < 16) :
    (ieUnpacking var size position).toNat =
      var.toNat / 2 ^ position.toNat % 2 ^ size.toNat := by
  have hpow : 2 ^ size.toNat < 2 ^ 16 := Nat.pow_lt_pow_right (by decide) hs
  have hone : ((1 : UInt16) <<< size).toNat = 2 ^ size.toNat := by
    rw [UInt16.toNat_shiftLeft, Nat.mod_eq_of_lt hs, Nat.shiftLeft_eq]
    simpa using Nat.mod_eq_of_lt hpow
  have hmask : ((1 : UInt16) <<< size - 1).toNat = 2 ^ size.toNat - 1 := by
    rw [UInt16.toNat_sub_of_le, hone]
    · rfl
    · rw [UInt16.le_iff_toNat_le, hone]
      exact Nat.one_le_two_pow
  rw [ieUnpacking, UInt16.toNat_and, hmask, UInt16.toNat_shiftRight, Nat.mod_eq_of_lt hp,
    Nat.and_two_pow_sub_one_eq_mod, Nat.shiftRight_eq_div_pow]

/-- **`GET_SUBIE_TYPE`** reads the type. -/
theorem getSubieType_header (low high : UInt8) :
    getSubieType (makeUint16 low high) = headerLong high := by
  have hlow : low.toNat < 256 := low.toNat_lt
  have hhigh : high.toNat < 256 := high.toNat_lt
  have hval := toNat_ieUnpacking (makeUint16 low high) 1 15 (by decide) (by decide)
  rw [toNat_makeUint16] at hval
  simp only [show (1 : UInt16).toNat = 1 from rfl, show (15 : UInt16).toNat = 15 from rfl] at hval
  simp only [getSubieType, headerLong, ne_eq, decide_eq_decide, ← UInt16.toNat_inj, hval]
  show ¬ _ = 0 ↔ _
  omega

/-- **`GET_SUBIE_ID_LONG`** and **`GET_SUBIE_ID_SHORT`** read the identifier. -/
theorem getSubieId_header (low high : UInt8) :
    (if headerLong high then getSubieIdLong (makeUint16 low high)
      else getSubieIdShort (makeUint16 low high)).toNat = headerId high := by
  have hlow : low.toNat < 256 := low.toNat_lt
  have hhigh : high.toNat < 256 := high.toNat_lt
  have hlong := toNat_ieUnpacking (makeUint16 low high) 4 11 (by decide) (by decide)
  have hshort := toNat_ieUnpacking (makeUint16 low high) 7 8 (by decide) (by decide)
  rw [toNat_makeUint16] at hlong hshort
  simp only [show (4 : UInt16).toNat = 4 from rfl, show (11 : UInt16).toNat = 11 from rfl]
    at hlong
  simp only [show (7 : UInt16).toNat = 7 from rfl, show (8 : UInt16).toNat = 8 from rfl]
    at hshort
  rw [headerId]
  cases htype : headerLong high with
  | true =>
    simp only [if_true, getSubieIdLong, UInt16.toNat_toUInt8, hlong]
    omega
  | false =>
    simp only [headerLong, decide_eq_false_iff_not, not_le] at htype
    simp only [if_neg (show ¬ false = true by decide), getSubieIdShort, UInt16.toNat_toUInt8,
      hshort]
    omega

/-- **`GET_SUBIE_LEN_LONG`** and **`GET_SUBIE_LEN_SHORT`** read the length. -/
theorem getSubieLen_header (low high : UInt8) :
    (if headerLong high then getSubieLenLong (makeUint16 low high)
      else getSubieLenShort (makeUint16 low high)).toNat = headerLen low high := by
  have hlow : low.toNat < 256 := low.toNat_lt
  have hhigh : high.toNat < 256 := high.toNat_lt
  have hlong := toNat_ieUnpacking (makeUint16 low high) 11 0 (by decide) (by decide)
  have hshort := toNat_ieUnpacking (makeUint16 low high) 8 0 (by decide) (by decide)
  rw [toNat_makeUint16] at hlong hshort
  simp only [show (11 : UInt16).toNat = 11 from rfl, show (0 : UInt16).toNat = 0 from rfl]
    at hlong
  simp only [show (8 : UInt16).toNat = 8 from rfl, show (0 : UInt16).toNat = 0 from rfl]
    at hshort
  rw [headerLen]
  cases headerLong high with
  | true =>
    simp only [if_true, getSubieLenLong, hlong]
    omega
  | false =>
    simp only [if_neg (show ¬ false = true by decide), getSubieLenShort, hshort]
    omega

/-! ## Elements as a prefix code -/

/-- The elements that are read: in a group only long ones, and not the one that terminates it. -/
def IsRead (group : Bool) (long : Bool) (id : ℕ) : Prop :=
  group = true → long = true ∧ id ≠ payloadIEGroupTerm.toNat

instance (group long : Bool) (id : ℕ) : Decidable (IsRead group long id) :=
  inferInstanceAs (Decidable (_ → _))

/-- The first element of some bytes, if all of it is there and it is one that is read. -/
def nextIe (group : Bool) : List UInt8 → Option (Ie × List UInt8)
  | low :: high :: rest =>
    if h : IsRead group (headerLong high) (headerId high) ∧ headerLen low high ≤ rest.length then
      some (⟨headerLong high, headerId high, rest.take (headerLen low high), headerId_lt high, by
        rw [List.length_take_of_le h.2]; exact headerLen_lt low high⟩,
        rest.drop (headerLen low high))
    else none
  | _ => none

/-- The first byte of a header is determined by the length in it. -/
theorem ofNat_headerLen (low high : UInt8) : UInt8.ofNat (headerLen low high) = low := by
  have hlow : low.toNat < 256 := low.toNat_lt
  rw [← UInt8.toNat_inj, UInt8.toNat_ofNat', headerLen]
  split <;> omega

/-- The second byte of a header is determined by what is in it. -/
theorem ofNat_header_high (low high : UInt8) :
    UInt8.ofNat (if headerLong high then 128 + 8 * headerId high + headerLen low high / 256
      else headerId high) = high := by
  have hlow : low.toNat < 256 := low.toNat_lt
  have hhigh : high.toNat < 256 := high.toNat_lt
  rw [← UInt8.toNat_inj, UInt8.toNat_ofNat', headerId, headerLen]
  cases hlong : headerLong high with
  | true =>
    simp only [headerLong, decide_eq_true_eq] at hlong
    simp only [if_true]
    omega
  | false =>
    simp only [if_neg (show ¬ false = true by decide)]
    omega

/-- **The elements as a prefix code.** -/
def ieCode (group : Bool) : PrefixCode Ie UInt8 where
  Admits ie := IsRead group ie.typeLong ie.id
  encode := Ie.encode
  next := nextIe group
  encode_ne_nil ie := by simp [Ie.encode]
  next_encode ie hread rest := by
    rw [Ie.encode, List.cons_append, List.cons_append, nextIe, dif_pos]
    · simp only [headerLen_encode, headerLong_high, headerId_high, List.take_left,
        List.drop_left]
    · rw [headerLen_encode, headerLong_high, headerId_high, List.length_append]
      exact ⟨hread, Nat.le_add_right _ _⟩
  of_next bs ie rest hnext := by
    unfold nextIe at hnext
    split at hnext
    · rename_i low high rest'
      split_ifs at hnext with h
      obtain ⟨rfl, rfl⟩ := Prod.mk.inj (Option.some.inj hnext)
      refine ⟨h.1, ?_⟩
      simp only [Ie.encode, Ie.high, List.length_take_of_le h.2, ofNat_headerLen,
        ofNat_header_high, List.cons_append, List.take_append_drop]
    · cases hnext

end SensorCollector
