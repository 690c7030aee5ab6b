/-
This file embeds the BER layer of the GOOSE stack: `ber_encoder.c`,
`ber_decode.c` and `ber_integer.c`.

An encoder of the source writes at a position of a buffer and returns the next
position; here it is the list of octets it writes. A decoder of the source reads
a buffer at a position; here the buffer is the list of octets from its pointer
on, so `buffer + bufPos` is `buffer.drop bufPos`, and a position where the
source returns `-1` is `none`. A read past the end of the list is a read of
memory behind the buffer; `octetAt` gives it the value `0`.
-/

import Substation.Lib.Octets

namespace Substation

/-! ### ber_encoder.c -/

namespace BerEncoder

def encodeLength (length : Nat) : List UInt8 :=
  if length < 128 then [UInt8.ofNat length]
  else if length < 256 then [0x81, UInt8.ofNat length]
  else if length < 65535 then [0x82, UInt8.ofNat (length / 256), UInt8.ofNat (length % 256)]
  else [0x83, UInt8.ofNat (length / 0x10000), UInt8.ofNat (length % 0x10000 / 0x100),
    UInt8.ofNat (length % 256)]

def encodeTL (tag : UInt8) (length : Nat) : List UInt8 :=
  tag :: encodeLength length

def encodeBoolean (tag : UInt8) (value : Bool) : List UInt8 :=
  [tag, 1, if value then 0x01 else 0x00]

def encodeStringWithTag (tag : UInt8) (string : List UInt8) : List UInt8 :=
  tag :: (encodeLength string.length ++ string)

def encodeOctetString (tag : UInt8) (octetString : List UInt8) : List UInt8 :=
  tag :: (encodeLength octetString.length ++ octetString)

/-- The redundant leading octets of a two's-complement integer, deleted. -/
def compressInteger : List UInt8 → List UInt8
  | first :: second :: rest =>
    if first = 0x00 ∧ second &&& 0x80 = 0 ∨ first = 0xff ∧ second &&& 0x80 = 0x80 then
      compressInteger (second :: rest)
    else first :: second :: rest
  | short => short

/-- The octets of an unsigned word: a zero octet and the four octets in network order, the
copy and `BerEncoder_revertByteOrder` of a little-endian machine, compressed. -/
def uint32Octets (value : BitVec 32) : List UInt8 :=
  compressInteger (0 :: Octets.ofNat 4 value.toNat)

def encodeUInt32WithTL (tag : UInt8) (value : BitVec 32) : List UInt8 :=
  tag :: UInt8.ofNat (uint32Octets value).length :: uint32Octets value

/-- The size the source calls `BerEncoder_UInt32determineEncodedSize`. -/
def uint32DetermineEncodedSize (value : BitVec 32) : Nat :=
  (uint32Octets value).length

def determineLengthSize (length : Nat) : Nat :=
  if length < 128 then 1 else if length < 256 then 2 else if length < 65536 then 3 else 4

def determineEncodedStringSize (string : List UInt8) : Nat :=
  1 + determineLengthSize string.length + string.length

end BerEncoder

/-! ### asn1_ber_primitive_value.c and ber_integer.c -/

/-- The storage of an integer: `size` octets in use of `maxSize` allocated ones. -/
structure Asn1PrimitiveValue where
  size : Nat
  maxSize : Nat
  octets : List UInt8
  deriving DecidableEq, Repr

/-- `memcpy` of some octets to the start of a buffer. -/
def overwrite (buffer source : List UInt8) : List UInt8 :=
  source ++ buffer.drop source.length

namespace Asn1PrimitiveValue

def create (size : Nat) : Asn1PrimitiveValue where
  size := 1
  maxSize := size
  octets := List.replicate size 0

/-- The content of an element copied into the storage. -/
def store (self : Asn1PrimitiveValue) (source : List UInt8) : Asn1PrimitiveValue :=
  { self with size := source.length, octets := overwrite self.octets source }

end Asn1PrimitiveValue

namespace BerInteger

def createInt32 : Asn1PrimitiveValue := Asn1PrimitiveValue.create 5

def createInt64 : Asn1PrimitiveValue := Asn1PrimitiveValue.create 9

/-- `setIntegerValue` on the octets in network order. A value too long for the storage is not
stored. -/
def setIntegerValue (self : Asn1PrimitiveValue) (octets : List UInt8) : Asn1PrimitiveValue :=
  let compressed := BerEncoder.compressInteger octets
  if compressed.length ≤ self.maxSize then self.store compressed else self

def createFromInt32 (value : BitVec 32) : Asn1PrimitiveValue :=
  setIntegerValue createInt32 (Octets.ofNat 4 value.toNat)

/-- The sign is taken from the first octet of the storage, also when no octet is in use. -/
def toInt32 (self : Asn1PrimitiveValue) : BitVec 32 :=
  (self.octets.take self.size).foldl Octets.shiftOr
    (if Octets.negative self.octets then BitVec.allOnes 32 else 0)

end BerInteger

/-! ### ber_decode.c -/

namespace BerDecoder

def octetAt (buffer : List UInt8) (bufPos : Nat) : UInt8 := buffer.getD bufPos 0

/-- The loop of `getIndefiniteLength`, with `decode` for the length decoder one level down. -/
def indefiniteLength (decode : Nat → Option (Nat × Nat)) (buffer : List UInt8)
    (maxBufPos : Nat) : Nat → Nat → Nat → Option Nat
  | 0, _, _ => none
  | fuel + 1, bufPos, length =>
    if maxBufPos ≤ bufPos then none
    else if octetAt buffer bufPos = 0 ∧ bufPos + 1 < maxBufPos ∧ octetAt buffer (bufPos + 1) = 0 then
      some (length + 2)
    else
      -- An extended tag takes a second octet.
      let tagEnd := if octetAt buffer bufPos &&& 0x1f = 0x1f then bufPos + 2 else bufPos + 1
      match decode tagEnd with
      | none => none
      | some (subLength, newBufPos) =>
        indefiniteLength decode buffer maxBufPos fuel (newBufPos + subLength)
          (length + (tagEnd - bufPos) + (subLength + newBufPos - tagEnd))

/-- The octets of a long length. The check before each octet keeps the length below the size of
the buffer, so the `int` of the source does not overflow. -/
def longLength (buffer : List UInt8) (maxBufPos : Nat) : Nat → Nat → Nat → Option (Nat × Nat)
  | 0, bufPos, length => some (length, bufPos)
  | count + 1, bufPos, length =>
    if maxBufPos ≤ bufPos then none
    else if maxBufPos < bufPos + length then none
    else longLength buffer maxBufPos count (bufPos + 1)
      (length * 256 + (octetAt buffer bufPos).toNat)

/-- The content a length announces has to fit the buffer. -/
def checkLength (maxBufPos : Nat) : Option (Nat × Nat) → Option (Nat × Nat)
  | none => none
  | some (length, bufPos) => if maxBufPos < bufPos + length then none else some (length, bufPos)

/-- One level of `BerDecoder_decodeLengthRecursive`, with the indefinite form as an argument. -/
def decodeLengthWith (indefinite : Option (Nat × Nat)) (buffer : List UInt8)
    (maxBufPos bufPos : Nat) : Option (Nat × Nat) :=
  if maxBufPos ≤ bufPos then none
  else
    let len1 := octetAt buffer bufPos
    checkLength maxBufPos
      (if len1 &&& 0x80 ≠ 0 then
        if len1 &&& 0x7f = 0 then indefinite
        else longLength buffer maxBufPos (len1 &&& 0x7f).toNat (bufPos + 1) 0
      else some (len1.toNat, bufPos + 1))

/-- `BerDecoder_decodeLengthRecursive`: the length and the position after it. The first argument
is the number of nested indefinite lengths still allowed. -/
def decodeLengthRecursive (buffer : List UInt8) (maxBufPos : Nat) :
    Nat → Nat → Option (Nat × Nat)
  | 0, bufPos => decodeLengthWith none buffer maxBufPos bufPos
  | depth + 1, bufPos =>
    decodeLengthWith
      ((indefiniteLength (decodeLengthRecursive buffer maxBufPos depth) buffer maxBufPos
        maxBufPos (bufPos + 1) 0).map fun length => (length, bufPos + 1))
      buffer maxBufPos bufPos

def decodeLength (buffer : List UInt8) (bufPos maxBufPos : Nat) : Option (Nat × Nat) :=
  decodeLengthRecursive buffer maxBufPos 50 bufPos

def decodeUint32 (buffer : List UInt8) (intLen bufPos : Nat) : BitVec 32 :=
  ((buffer.drop bufPos).take intLen).foldl Octets.shiftAdd 0

def decodeBoolean (buffer : List UInt8) (bufPos : Nat) : Bool :=
  octetAt buffer bufPos ≠ 0

/-- The exponent width octet is skipped. -/
def decodeFloat (buffer : List UInt8) (bufPos : Nat) : BitVec 32 :=
  BitVec.ofNat 32 (Octets.unsigned ((buffer.drop (bufPos + 1)).take 4))

def decodeDouble (buffer : List UInt8) (bufPos : Nat) : BitVec 64 :=
  BitVec.ofNat 64 (Octets.unsigned ((buffer.drop (bufPos + 1)).take 8))

end BerDecoder

/-! ### Integers survive compression -/

namespace BerEncoder

theorem and_0x80_eq_zero (octet : UInt8) : octet &&& 0x80 = 0 ↔ octet.toNat < 128 := by
  revert octet
  decide +kernel

theorem and_0x80_eq_0x80 (octet : UInt8) : octet &&& 0x80 = 0x80 ↔ 128 ≤ octet.toNat := by
  revert octet
  decide +kernel

theorem signed_compressInteger (octets : List UInt8) :
    Octets.signed (compressInteger octets) = Octets.signed octets := by
  induction octets using compressInteger.induct with
  | case1 first second rest redundant inductionHypothesis =>
    rw [compressInteger, if_pos redundant, inductionHypothesis]
    rcases redundant with ⟨rfl, clear⟩ | ⟨rfl, set⟩
    · rw [and_0x80_eq_zero] at clear
      refine (Octets.signed_cons_zero ?_).symm
      rw [Octets.negative_cons, decide_eq_false_iff_not]
      omega
    · rw [and_0x80_eq_0x80] at set
      refine (Octets.signed_cons_ones ?_).symm
      rw [Octets.negative_cons]
      exact decide_eq_true set
  | case2 first second rest needed => rw [compressInteger, if_neg needed]
  | case3 short notLong => rw [compressInteger]; exact notLong

theorem length_compressInteger_le (octets : List UInt8) :
    (compressInteger octets).length ≤ octets.length := by
  induction octets using compressInteger.induct with
  | case1 first second rest redundant inductionHypothesis =>
    rw [compressInteger, if_pos redundant]
    exact inductionHypothesis.trans (Nat.le_succ _)
  | case2 first second rest needed => rw [compressInteger, if_neg needed]
  | case3 short notLong => rw [compressInteger]; exact notLong

theorem length_compressInteger_pos {octets : List UInt8} (nonempty : octets ≠ []) :
    0 < (compressInteger octets).length := by
  induction octets using compressInteger.induct with
  | case1 first second rest redundant inductionHypothesis =>
    rw [compressInteger, if_pos redundant]
    exact inductionHypothesis (List.cons_ne_nil _ _)
  | case2 first second rest needed =>
    rw [compressInteger, if_neg needed]
    exact Nat.succ_pos _
  | case3 short notLong =>
    rw [compressInteger]
    · exact List.length_pos_iff.mpr nonempty
    · exact notLong

/-- An octet string that is not negative stays so under compression. -/
theorem unsigned_compressInteger {octets : List UInt8}
    (positive : Octets.negative octets = false) :
    Octets.unsigned (compressInteger octets) = Octets.unsigned octets := by
  have value := signed_compressInteger octets
  rw [Octets.signed_of_not_negative positive] at value
  -- A negative string denotes a negative integer, so the sign is kept.
  have kept : Octets.negative (compressInteger octets) = false := by
    by_contra negated
    rw [Bool.not_eq_false] at negated
    have bound := Octets.unsigned_lt (compressInteger octets)
    rw [Octets.signed, negated, if_pos rfl] at value
    zify at bound
    omega
  rw [Octets.signed_of_not_negative kept] at value
  exact_mod_cast value

theorem length_uint32Octets (value : BitVec 32) :
    0 < (uint32Octets value).length ∧ (uint32Octets value).length ≤ 5 := by
  refine ⟨length_compressInteger_pos (List.cons_ne_nil _ _), ?_⟩
  refine (length_compressInteger_le _).trans ?_
  rw [List.length_cons, Octets.length_ofNat]

theorem unsigned_uint32Octets (value : BitVec 32) :
    Octets.unsigned (uint32Octets value) = value.toNat := by
  have bound : value.toNat < 256 ^ 4 := value.isLt
  rw [uint32Octets, unsigned_compressInteger rfl, Octets.unsigned, Octets.unsigned_ofNat_of_lt bound]
  simp

theorem length_encodeLength_of_lt {length : Nat} (short : length < 128) :
    encodeLength length = [UInt8.ofNat length] := by
  rw [encodeLength, if_pos short]

end BerEncoder

namespace BerInteger

/-- The octets of a signed word, compressed. -/
def int32Octets (value : BitVec 32) : List UInt8 :=
  BerEncoder.compressInteger (Octets.ofNat 4 value.toNat)

theorem length_int32Octets (value : BitVec 32) :
    0 < (int32Octets value).length ∧ (int32Octets value).length ≤ 4 := by
  refine ⟨BerEncoder.length_compressInteger_pos ?_, ?_⟩
  · rw [Octets.ofNat]
    exact List.cons_ne_nil _ _
  · exact (BerEncoder.length_compressInteger_le _).trans (Octets.length_ofNat 4 _).le

theorem createFromInt32_eq (value : BitVec 32) :
    createFromInt32 value = createInt32.store (int32Octets value) := by
  have small := (length_int32Octets value).2
  rw [createFromInt32, setIntegerValue, ← int32Octets, if_pos]
  exact small.trans (by decide)

/-- Stored octets are read back as the two's-complement integer they denote. -/
theorem toInt32_store (self : Asn1PrimitiveValue) {source : List UInt8} (nonempty : source ≠ []) :
    toInt32 (self.store source) = BitVec.ofInt 32 (Octets.signed source) := by
  have sign : Octets.negative (overwrite self.octets source) = Octets.negative source := by
    obtain ⟨octet, rest, rfl⟩ := List.exists_cons_of_ne_nil nonempty
    rfl
  rw [toInt32, Asn1PrimitiveValue.store, sign, overwrite, List.take_left']
  · exact Octets.foldl_shiftOr_sign source
  · rfl

/-- The octets sent for a 32-bit integer denote the integer, wherever they are stored. -/
theorem toInt32_store_int32Octets (self : Asn1PrimitiveValue) (value : BitVec 32) :
    toInt32 (self.store (int32Octets value)) = value := by
  rw [toInt32_store self (List.length_pos_iff.mp (length_int32Octets value).1), int32Octets,
    BerEncoder.signed_compressInteger, Octets.signed_ofNat_toNat, BitVec.ofInt_toInt]

end BerInteger

/-! ### Lengths are decoded as they were encoded -/

namespace BerDecoder

theorem octetAt_of_drop {buffer : List UInt8} {bufPos : Nat} {octet : UInt8} {rest : List UInt8}
    (at_ : buffer.drop bufPos = octet :: rest) : octetAt buffer bufPos = octet := by
  have head : (buffer.drop bufPos)[0]? = some octet := by rw [at_]; rfl
  rw [List.getElem?_drop, add_zero] at head
  rw [octetAt, List.getD_eq_getElem?_getD, head, Option.getD_some]

theorem drop_succ_of_drop {buffer : List UInt8} {bufPos : Nat} {octet : UInt8} {rest : List UInt8}
    (at_ : buffer.drop bufPos = octet :: rest) : buffer.drop (bufPos + 1) = rest := by
  rw [← List.drop_drop, at_, List.drop_succ_cons, List.drop_zero]

theorem checkLength_of_fits {maxBufPos length bufPos : Nat} (fits : bufPos + length ≤ maxBufPos) :
    checkLength maxBufPos (some (length, bufPos)) = some (length, bufPos) := by
  rw [checkLength, if_neg (not_lt.mpr fits)]

theorem decodeLength_short {buffer : List UInt8} {bufPos maxBufPos length : Nat}
    {rest : List UInt8} (short : length < 128)
    (at_ : buffer.drop bufPos = UInt8.ofNat length :: rest)
    (room : bufPos + 1 + length ≤ maxBufPos) :
    decodeLength buffer bufPos maxBufPos = some (length, bufPos + 1) := by
  have octet : (UInt8.ofNat length).toNat = length :=
    UInt8.toNat_ofNat_of_lt' (lt_trans short (by decide))
  have clear : UInt8.ofNat length &&& 0x80 = 0 := by
    rw [BerEncoder.and_0x80_eq_zero, octet]
    exact short
  rw [decodeLength, decodeLengthRecursive, decodeLengthWith, if_neg (by omega),
      octetAt_of_drop at_]
  simp only [clear, ne_eq, not_true_eq_false, if_false, octet]
  exact checkLength_of_fits (by omega)

/-- A length encoded in any of the forms up to two octets is decoded, when the content it
announces fits the buffer. -/
theorem decodeLength_encodeLength {buffer : List UInt8} {bufPos maxBufPos length : Nat}
    {rest : List UInt8} (bound : length < 65535)
    (at_ : buffer.drop bufPos = BerEncoder.encodeLength length ++ rest)
    (room : bufPos + (BerEncoder.encodeLength length).length + length ≤ maxBufPos) :
    decodeLength buffer bufPos maxBufPos =
      some (length, bufPos + (BerEncoder.encodeLength length).length) := by
  have ofNat_toNat (value : Nat) (small : value < 256) : (UInt8.ofNat value).toNat = value :=
    UInt8.toNat_ofNat_of_lt' small
  unfold BerEncoder.encodeLength at at_ room ⊢
  split_ifs at at_ room ⊢ with short long
  · exact decodeLength_short short at_ room
  · have second := drop_succ_of_drop at_
    simp only [List.length_cons, List.length_nil] at room ⊢
    rw [decodeLength, decodeLengthRecursive, decodeLengthWith, if_neg (by omega),
      octetAt_of_drop at_]
    have form : (0x81 : UInt8) &&& 0x80 ≠ 0 ∧ (0x81 : UInt8) &&& 0x7f ≠ 0 ∧
        ((0x81 : UInt8) &&& 0x7f).toNat = 1 := by decide
    simp only [form.1, form.2.1, form.2.2, if_true, if_false, ne_eq, not_false_eq_true]
    simp only [longLength, octetAt_of_drop second, ofNat_toNat length long]
    rw [if_neg (by omega), if_neg (by omega)]
    simp only [zero_mul, zero_add]
    exact checkLength_of_fits (by omega)
  · have second := drop_succ_of_drop at_
    have third := drop_succ_of_drop second
    simp only [List.length_cons, List.length_nil] at room ⊢
    rw [decodeLength, decodeLengthRecursive, decodeLengthWith, if_neg (by omega),
      octetAt_of_drop at_]
    have form : (0x82 : UInt8) &&& 0x80 ≠ 0 ∧ (0x82 : UInt8) &&& 0x7f ≠ 0 ∧
        ((0x82 : UInt8) &&& 0x7f).toNat = 2 := by decide
    simp only [form.1, form.2.1, form.2.2, if_true, if_false, ne_eq, not_false_eq_true]
    simp only [longLength, octetAt_of_drop second, octetAt_of_drop third,
      ofNat_toNat (length / 256) (by omega), ofNat_toNat (length % 256) (by omega)]
    rw [if_neg (by omega), if_neg (by omega), if_neg (by omega), if_neg (by omega)]
    simp only [zero_mul, zero_add, Nat.div_add_mod']
    exact checkLength_of_fits (by omega)

end BerDecoder

end Substation
