/-
This file says what an MMS value is apart from how it is stored: the datum whose
octets go over the network. A value whose storage is sound is encoded as its datum,
but for one thing: the first pass of the encoder is an octet short for every bit
string of 127 or of 255 octets, because it takes the length of the string without
the octet of the padding.
-/

import Substation.Publisher

namespace Substation

/-! ### The data -/

/-- What a value says. Integers and times are their octets, the bits of a bit string behind its
size are clear. -/
inductive Datum
  | array (items : List Datum)
  | struct (items : List Datum)
  | boolean (value : Bool)
  | bitString (size : Nat) (octets : List UInt8)
  | integer (octets : List UInt8)
  | unsigned (octets : List UInt8)
  | float (value : FloatingPoint)
  | octetString (octets : List UInt8)
  | visibleString (text : List UInt8)
  | binaryTime (octets : List UInt8)
  | utcTime (octets : List UInt8)

/-- The unused bits of the last octet of a bit string, cleared. -/
def clearPadding (size : Nat) (octets : List UInt8) : List UInt8 :=
  octets.dropLast ++ (octets.getLast?.map fun last =>
    last &&& ~~~ UInt8.ofNat (2 ^ (BerEncoder.bitStringByteSize size * 8 - size) - 1)).toList

namespace Datum

def tag : Datum → UInt8
  | array _ => 0xa1
  | struct _ => 0xa2
  | boolean _ => 0x83
  | bitString _ _ => 0x84
  | integer _ => 0x85
  | unsigned _ => 0x86
  | float _ => 0x87
  | octetString _ => 0x89
  | visibleString _ => 0x8a
  | binaryTime _ => 0x8c
  | utcTime _ => 0x91

/-- The octets behind the tag and the length. -/
def content : Datum → List UInt8
  | array items => contents items
  | struct items => contents items
  | boolean value => [if value then 1 else 0]
  | bitString size octets =>
    UInt8.ofNat (BerEncoder.bitStringByteSize size * 8 - size) :: octets
  | integer octets => octets
  | unsigned octets => octets
  | float value => BerEncoder.encodeFloat value
  | octetString octets => octets
  | visibleString text => text
  | binaryTime octets => octets
  | utcTime octets => octets
where
  contents : List Datum → List UInt8
  | [] => []
  | item :: items => encodeElement item.tag item.content ++ contents items

/-- The elements of some data. -/
def elements (items : List Datum) : List (UInt8 × List UInt8) :=
  items.map fun item => (item.tag, item.content)

theorem contents_eq (items : List Datum) :
    content.contents items = encodeElements (elements items) := by
  induction items with
  | nil => rfl
  | cons item items inductionHypothesis =>
    rw [content.contents, inductionHypothesis]
    rfl

/-- Data of the sizes that the decoders take. -/
def Sendable : Datum → Prop
  | array items => AllSendable items
  | struct items => AllSendable items
  | boolean _ => True
  | bitString size octets => 0 < size ∧ octets.length = BerEncoder.bitStringByteSize size ∧
    clearPadding size octets = octets
  | integer octets => octets.length ≤ 8
  | unsigned octets => octets.length ≤ 8
  | float _ => True
  | octetString _ => True
  | visibleString text => 0 ∉ text
  | binaryTime octets => octets.length = 4 ∨ octets.length = 6
  | utcTime octets => octets.length = 8
where
  AllSendable : List Datum → Prop
  | [] => True
  | item :: items => item.Sendable ∧ AllSendable items

end Datum

/-! ### The datum of a value -/

namespace MmsValue

def datum : MmsValue → Datum
  | array components => .array (data components)
  | struct components => .struct (data components)
  | boolean value => .boolean value
  | bitString size buf =>
    .bitString size (clearPadding size (buf.take (BerEncoder.bitStringByteSize size)))
  | integer value => .integer (value.octets.take value.size)
  | unsigned value => .unsigned (value.octets.take value.size)
  | float value => .float value
  | octetString size _ buf => .octetString (buf.take size)
  | visibleString _ buf => .visibleString (cString buf)
  | binaryTime size buf => .binaryTime (buf.take size)
  | utcTime octets => .utcTime octets
where
  data : List (Option MmsValue) → List Datum
  | [] => []
  | none :: rest => data rest
  | some value :: rest => value.datum :: data rest

/-- The storage holds what its sizes announce, and no component is missing. -/
def Sound : MmsValue → Prop
  | array components => AllSound components
  | struct components => AllSound components
  | boolean _ => True
  | bitString size buf => 0 < size ∧ BerEncoder.bitStringByteSize size ≤ buf.length
  | integer value => value.size ≤ 8 ∧ value.size ≤ value.octets.length
  | unsigned value => value.size ≤ 8 ∧ value.size ≤ value.octets.length
  | float _ => True
  | octetString size _ buf => size ≤ buf.length
  | visibleString _ _ => True
  | binaryTime size buf => (size = 4 ∨ size = 6) ∧ size ≤ buf.length
  | utcTime octets => octets.length = 8
where
  AllSound : List (Option MmsValue) → Prop
  | [] => True
  | none :: _ => False
  | some value :: rest => value.Sound ∧ AllSound rest

/-- How many bit strings of 127 or 255 octets a value holds. -/
def shortfall : MmsValue → Nat
  | array components => shortfalls components
  | struct components => shortfalls components
  | bitString size _ =>
    if BerEncoder.bitStringByteSize size = 127 ∨ BerEncoder.bitStringByteSize size = 255 then 1
    else 0
  | _ => 0
where
  shortfalls : List (Option MmsValue) → Nat
  | [] => 0
  | none :: rest => shortfalls rest
  | some value :: rest => value.shortfall + shortfalls rest

end MmsValue

/-! ### Bit strings -/

theorem clearPadding_append (size : Nat) (octets : List UInt8) (last : UInt8) :
    clearPadding size (octets ++ [last]) = octets ++
      [last &&& ~~~ UInt8.ofNat (2 ^ (BerEncoder.bitStringByteSize size * 8 - size) - 1)] := by
  rw [clearPadding, List.dropLast_concat, List.getLast?_concat]
  rfl

theorem length_clearPadding (size : Nat) (octets : List UInt8) :
    (clearPadding size octets).length = octets.length := by
  induction octets using List.reverseRecOn with
  | nil => rfl
  | append_singleton octets last _ =>
    rw [clearPadding_append, List.length_append, List.length_append]
    rfl

theorem clearPadding_clearPadding (size : Nat) (octets : List UInt8) :
    clearPadding size (clearPadding size octets) = clearPadding size octets := by
  induction octets using List.reverseRecOn with
  | nil => rfl
  | append_singleton octets last _ =>
    rw [clearPadding_append, clearPadding_append, UInt8.and_assoc, UInt8.and_self]

namespace BerEncoder

theorem bitStringByteSize_pos {size : Nat} (positive : 0 < size) : 0 < bitStringByteSize size := by
  unfold bitStringByteSize
  split <;> omega

theorem padding_le (size : Nat) : bitStringByteSize size * 8 - size ≤ 7 := by
  unfold bitStringByteSize
  split <;> omega

theorem size_le (size : Nat) : size ≤ bitStringByteSize size * 8 := by
  unfold bitStringByteSize
  split <;> omega

theorem encodeBitString_eq (tag : UInt8) {size : Nat} (positive : 0 < size) {buf : List UInt8}
    (room : bitStringByteSize size ≤ buf.length) :
    encodeBitString tag size buf =
      encodeElement tag (Datum.content (.bitString size
        (clearPadding size (buf.take (bitStringByteSize size))))) := by
  have length : (buf.take (bitStringByteSize size)).length = bitStringByteSize size := by
    rw [List.length_take, min_eq_left room]
  obtain ⟨octets, last, split⟩ : ∃ octets last, buf.take (bitStringByteSize size) =
      octets ++ [last] := by
    rcases List.eq_nil_or_concat (buf.take (bitStringByteSize size)) with empty | ⟨octets, last, eq⟩
    · rw [empty, List.length_nil] at length
      have := bitStringByteSize_pos positive
      omega
    · exact ⟨octets, last, by rw [eq, List.concat_eq_append]⟩
  have contentLength : (Datum.content (.bitString size
      (clearPadding size (buf.take (bitStringByteSize size))))).length =
        bitStringByteSize size + 1 := by
    rw [Datum.content, List.length_cons, length_clearPadding, length]
  have whole (padding : UInt8) : padding :: (octets ++ [last]) = (padding :: octets) ++ [last] :=
    rfl
  rw [encodeElement, contentLength, encodeBitString, Datum.content, split, clearPadding_append,
    whole, List.dropLast_concat, List.getLast?_concat, List.append_assoc]
  rfl

theorem length_encodeLength {length : Nat} (bound : length < 65535) :
    (encodeLength length).length = determineLengthSize length := by
  unfold encodeLength determineLengthSize
  split_ifs <;> first | rfl | omega

theorem length_encodeElement_eq {content : List UInt8} (tag : UInt8)
    (bound : content.length < 65535) :
    (encodeElement tag content).length =
      1 + determineLengthSize content.length + content.length := by
  rw [encodeElement, List.length_cons, List.length_append, length_encodeLength bound]
  omega

end BerEncoder

/-! ### A value is encoded as its datum -/

namespace MmsValue

/-- A value that is not nested is encoded as one element. -/
theorem encodeMmsData_simple {value : MmsValue} (sound : value.Sound)
    (simple : value.getType ≠ .array ∧ value.getType ≠ .struct) :
    value.encodeMmsData = encodeElement value.datum.tag value.datum.content := by
  cases value with
  | array components => exact absurd rfl simple.1
  | struct components => exact absurd rfl simple.2
  | boolean value => rfl
  | bitString size buf => exact BerEncoder.encodeBitString_eq 0x84 sound.1 sound.2
  | integer value =>
    have length : (value.octets.take value.size).length = value.size := by
      rw [List.length_take, min_eq_left sound.2]
    rw [encodeMmsData, BerEncoder.encodeAsn1PrimitiveValue, datum, Datum.content, encodeElement,
      length]
    rfl
  | unsigned value =>
    have length : (value.octets.take value.size).length = value.size := by
      rw [List.length_take, min_eq_left sound.2]
    rw [encodeMmsData, BerEncoder.encodeAsn1PrimitiveValue, datum, Datum.content, encodeElement,
      length]
    rfl
  | float value => cases value <;> rfl
  | octetString size maxSize buf => rfl
  | visibleString size buf => rfl
  | binaryTime size buf => rfl
  | utcTime octets => rfl

theorem shortfall_bitString {size : Nat} (buf : List UInt8)
    (bound : BerEncoder.determineEncodedBitStringSize size < 65535) :
    BerEncoder.determineLengthSize (BerEncoder.bitStringByteSize size + 1) =
      BerEncoder.determineLengthSize (BerEncoder.bitStringByteSize size) +
        (bitString size buf).shortfall := by
  rw [BerEncoder.determineEncodedBitStringSize] at bound
  unfold shortfall
  generalize BerEncoder.bitStringByteSize size = bytes at bound ⊢
  unfold BerEncoder.determineLengthSize
  split_ifs <;> omega

/-- What the second pass writes for a value that is not nested, beside what the first announced. -/
theorem length_encodeMmsData_simple {value : MmsValue} (sound : value.Sound)
    (simple : value.getType ≠ .array ∧ value.getType ≠ .struct)
    (bound : value.encodedSize < 65535) :
    value.encodeMmsData.length = value.encodedSize + value.shortfall := by
  rw [encodeMmsData_simple sound simple]
  cases value with
  | array components => exact absurd rfl simple.1
  | struct components => exact absurd rfl simple.2
  | boolean value => rfl
  | bitString size buf =>
    have length : (bitString size buf).datum.content.length =
        BerEncoder.bitStringByteSize size + 1 := by
      rw [datum, Datum.content, List.length_cons, length_clearPadding, List.length_take,
        min_eq_left sound.2]
    have gap := shortfall_bitString buf bound
    rw [encodedSize, BerEncoder.determineEncodedBitStringSize] at bound ⊢
    rw [BerEncoder.length_encodeElement_eq _ (by omega), length, gap]
    omega
  | integer value =>
    have length : (integer value).datum.content.length = value.size := by
      rw [datum, Datum.content, List.length_take, min_eq_left sound.2]
    have small := sound.1
    rw [length_encodeElement (by omega), length]
    rfl
  | unsigned value =>
    have length : (unsigned value).datum.content.length = value.size := by
      rw [datum, Datum.content, List.length_take, min_eq_left sound.2]
    have small := sound.1
    rw [length_encodeElement (by omega), length]
    rfl
  | float value => cases value <;> rfl
  | octetString size maxSize buf =>
    have length : (octetString size maxSize buf).datum.content.length = size := by
      rw [datum, Datum.content, List.length_take, min_eq_left sound]
    rw [encodedSize] at bound ⊢
    rw [BerEncoder.length_encodeElement_eq _ (by omega), length]
    rfl
  | visibleString size buf =>
    rw [encodedSize, BerEncoder.determineEncodedStringSize] at bound ⊢
    rw [datum, Datum.content, BerEncoder.length_encodeElement_eq _ (by omega)]
    rfl
  | binaryTime size buf =>
    have length : (binaryTime size buf).datum.content.length = size := by
      rw [datum, Datum.content, List.length_take, min_eq_left sound.2]
    have small := sound.1
    rw [length_encodeElement (by omega), length]
    rfl
  | utcTime octets =>
    have length : (utcTime octets).datum.content.length = 8 := sound
    rw [length_encodeElement (by omega), length]
    rfl

mutual

/-- The second pass writes an octet more than the first announced for each bit string of 127 or
255 octets, at any depth. -/
theorem length_encodeMmsData (value : MmsValue) (sound : value.Sound)
    (bound : value.encodedSize < 65535) :
    value.encodeMmsData.length = value.encodedSize + value.shortfall := by
  cases value with
  | array components =>
    rw [encodedSize] at bound
    have inner := length_encodings components sound (by omega)
    rw [encodeMmsData, encodedSize, shortfall, List.length_append, inner, BerEncoder.encodeTL,
      List.length_cons, BerEncoder.length_encodeLength (by omega)]
    omega
  | struct components =>
    rw [encodedSize] at bound
    have inner := length_encodings components sound (by omega)
    rw [encodeMmsData, encodedSize, shortfall, List.length_append, inner, BerEncoder.encodeTL,
      List.length_cons, BerEncoder.length_encodeLength (by omega)]
    omega
  | _ => exact length_encodeMmsData_simple sound ⟨nofun, nofun⟩ bound

theorem length_encodings (components : List (Option MmsValue)) (sound : Sound.AllSound components)
    (bound : encodedSize.sizes components < 65535) :
    (encodeMmsData.encodings components).length =
      encodedSize.sizes components + shortfall.shortfalls components := by
  match components with
  | [] => rfl
  | none :: rest => exact sound.elim
  | some value :: rest =>
    rw [encodedSize.sizes] at bound
    have first := length_encodeMmsData value sound.1 (by omega)
    have others := length_encodings rest sound.2 (by omega)
    rw [encodeMmsData.encodings, List.length_append, first, others, encodedSize.sizes,
      shortfall.shortfalls]
    omega

end

mutual

theorem encodeMmsData_eq (value : MmsValue) (sound : value.Sound)
    (bound : value.encodedSize < 65535) (announced : value.shortfall = 0) :
    value.encodeMmsData = encodeElement value.datum.tag value.datum.content := by
  cases value with
  | array components =>
    rw [encodedSize] at bound
    have inner := encodings_eq components sound (by omega) announced
    have length := length_encodings components sound (by omega)
    rw [show shortfall.shortfalls components = 0 from announced, add_zero, inner] at length
    rw [encodeMmsData, inner, datum, Datum.content, encodeElement, length]
    rfl
  | struct components =>
    rw [encodedSize] at bound
    have inner := encodings_eq components sound (by omega) announced
    have length := length_encodings components sound (by omega)
    rw [show shortfall.shortfalls components = 0 from announced, add_zero, inner] at length
    rw [encodeMmsData, inner, datum, Datum.content, encodeElement, length]
    rfl
  | _ => exact encodeMmsData_simple sound ⟨nofun, nofun⟩

theorem encodings_eq (components : List (Option MmsValue)) (sound : Sound.AllSound components)
    (bound : encodedSize.sizes components < 65535)
    (announced : shortfall.shortfalls components = 0) :
    encodeMmsData.encodings components = Datum.content.contents (datum.data components) := by
  match components with
  | [] => rfl
  | none :: rest => exact sound.elim
  | some value :: rest =>
    rw [encodedSize.sizes] at bound
    rw [shortfall.shortfalls] at announced
    have first := encodeMmsData_eq value sound.1 (by omega) (by omega)
    have others := encodings_eq rest sound.2 (by omega) (by omega)
    rw [encodeMmsData.encodings, first, others]
    rfl

end

/-! ### Sound values are sendable -/

theorem not_mem_cString (buf : List UInt8) : 0 ∉ cString buf := by
  intro member
  have kept := List.mem_takeWhile_imp member
  rw [decide_eq_true_iff] at kept
  exact kept rfl

mutual

theorem Sound.sendable (value : MmsValue) (sound : value.Sound) : value.datum.Sendable := by
  cases value with
  | array components => exact Sound.allSendable components sound
  | struct components => exact Sound.allSendable components sound
  | boolean value => exact trivial
  | bitString size buf =>
    refine ⟨sound.1, ?_, clearPadding_clearPadding size _⟩
    rw [length_clearPadding, List.length_take, min_eq_left sound.2]
  | integer value => exact (List.length_take_le _ _).trans sound.1
  | unsigned value => exact (List.length_take_le _ _).trans sound.1
  | float value => exact trivial
  | octetString size maxSize buf => exact trivial
  | visibleString size buf => exact not_mem_cString buf
  | binaryTime size buf =>
    have length : (buf.take size).length = size := by
      rw [List.length_take, min_eq_left sound.2]
    have known := sound.1
    rw [← length] at known
    exact known
  | utcTime octets => exact sound

theorem Sound.allSendable (components : List (Option MmsValue))
    (sound : Sound.AllSound components) : Datum.Sendable.AllSendable (datum.data components) := by
  match components with
  | [] => exact trivial
  | none :: rest => exact sound.elim
  | some value :: rest =>
    exact ⟨Sound.sendable value sound.1, Sound.allSendable rest sound.2⟩

end

end MmsValue

end Substation
