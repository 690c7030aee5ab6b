/-
This file reads back what any publisher of `goose_publisher.c` sends: a data set of
any values, with arrays and structures at any depth, becomes the same data in the
subscriber, whether the receiver creates a data set for it or overwrites the one it
has created from an earlier message.

Storage that was created for one message does not take every other: an integer that
was first sent in four octets or fewer has room for five. What the storage takes is
`Fits`, which no update changes.
-/

import Substation.Delivery
import Substation.PublisherApi

namespace Substation

/-! ### Data is created -/

section Switch

variable (nested : List UInt8 → Nat → Option (List (Option MmsValue))) (buffer : List UInt8)
  (elementLength : Nat)

theorem createValue_0xa1 :
    createValue nested ⟨0xa1, buffer, elementLength⟩ =
      (nested buffer elementLength).map fun components => some (.array components) := rfl

theorem createValue_0xa2 :
    createValue nested ⟨0xa2, buffer, elementLength⟩ =
      (nested buffer elementLength).map fun components => some (.struct components) := rfl

theorem createValue_0x84 :
    createValue nested ⟨0x84, buffer, elementLength⟩ =
      if elementLength ≤ 1 ∨ 7 < (BerDecoder.octetAt buffer 0).toNat then none
      else some (some (.bitString
        ((elementLength - 1) * 8 - (BerDecoder.octetAt buffer 0).toNat)
        ((buffer.drop 1).take (elementLength - 1)))) := rfl

theorem createValue_0x8c :
    createValue nested ⟨0x8c, buffer, elementLength⟩ =
      if elementLength = 4 ∨ elementLength = 6 then
        some (some (.binaryTime elementLength
          (overwrite (List.replicate 6 0) (buffer.take elementLength))))
      else some none := rfl

end Switch

theorem toNat_padding (size : Nat) :
    (UInt8.ofNat (BerEncoder.bitStringByteSize size * 8 - size)).toNat =
      BerEncoder.bitStringByteSize size * 8 - size := by
  have bound := BerEncoder.padding_le size
  exact UInt8.toNat_ofNat_of_lt' (by rw [UInt8.size]; omega)

theorem cString_append_zero {text : List UInt8} (proper : 0 ∉ text) (rest : List UInt8) :
    MmsValue.cString (text ++ 0 :: rest) = text := by
  rw [MmsValue.cString, List.takeWhile_append_of_pos]
  · simp
  · intro octet member
    rw [decide_eq_true_iff]
    rintro rfl
    exact proper member

theorem decodeDouble_encodeFloat (bits : BitVec 64) (rest : List UInt8) :
    BerDecoder.decodeDouble (BerEncoder.encodeFloat (.double bits) ++ rest) 0 = bits := by
  have bound : bits.toNat < 256 ^ 8 := bits.isLt
  rw [BerDecoder.decodeDouble, BerEncoder.encodeFloat, List.cons_append, zero_add,
    List.drop_succ_cons, List.drop_zero, List.take_left' (Octets.length_ofNat 8 _),
    Octets.unsigned_ofNat_of_lt bound, BitVec.ofNat_toNat, BitVec.setWidth_eq]

theorem length_encodeFloat_double (bits : BitVec 64) :
    (BerEncoder.encodeFloat (.double bits)).length = 9 := by
  rw [BerEncoder.encodeFloat, List.length_cons, Octets.length_ofNat]

namespace Datum

theorem contains_tag (item : Datum) : knownTags.contains item.tag = true := by
  cases item <;> rfl

theorem content_bitString (size : Nat) (octets : List UInt8) :
    (bitString size octets).content =
      UInt8.ofNat (BerEncoder.bitStringByteSize size * 8 - size) :: octets := rfl

/-- The value that the receiver creates for some data. -/
def created : Datum → MmsValue
  | array items => .array (createdAll items)
  | struct items => .struct (createdAll items)
  | boolean value => .boolean value
  | bitString size octets => .bitString size octets
  | integer octets => .integer ((MmsValue.integerStorage (octets.length * 8)).store octets)
  | unsigned octets => .unsigned ((MmsValue.integerStorage (octets.length * 8)).store octets)
  | float value => .float value
  | octetString octets => .octetString octets.length octets.length octets
  | visibleString text => .visibleString text.length (text ++ [0])
  | binaryTime octets => .binaryTime octets.length (overwrite (List.replicate 6 0) octets)
  | utcTime octets => .utcTime octets
where
  createdAll : List Datum → List (Option MmsValue)
  | [] => []
  | item :: items => some item.created :: createdAll items

theorem createdAll_eq (items : List Datum) :
    created.createdAll items = (items.map created).map some := by
  induction items with
  | nil => rfl
  | cons item items inductionHypothesis =>
    rw [created.createdAll, inductionHypothesis]
    rfl

mutual

/-- What is created for some data says the same. -/
theorem datum_created (item : Datum) (sendable : item.Sendable) : item.created.datum = item := by
  cases item with
  | array items => rw [created, MmsValue.datum, data_createdAll items sendable]
  | struct items => rw [created, MmsValue.datum, data_createdAll items sendable]
  | bitString size octets =>
    rw [created, MmsValue.datum, List.take_of_length_le sendable.2.1.le, sendable.2.2]
  | integer octets =>
    rw [created, MmsValue.datum, Asn1PrimitiveValue.store, overwrite, List.take_left]
  | unsigned octets =>
    rw [created, MmsValue.datum, Asn1PrimitiveValue.store, overwrite, List.take_left]
  | octetString octets => rw [created, MmsValue.datum, List.take_length]
  | visibleString text => rw [created, MmsValue.datum, cString_append_zero sendable]
  | binaryTime octets => rw [created, MmsValue.datum, overwrite, List.take_left]
  | boolean _ | float _ | utcTime _ => rfl

theorem data_createdAll (items : List Datum) (sendable : Sendable.AllSendable items) :
    MmsValue.datum.data (created.createdAll items) = items := by
  match items with
  | [] => rfl
  | item :: items =>
    rw [created.createdAll, MmsValue.datum.data, datum_created item sendable.1,
      data_createdAll items sendable.2]

end

/-- Data that is not nested is created, whatever stands behind it. -/
theorem createValue_simple {item : Datum} (sendable : item.Sendable)
    (simple : (∀ items, item ≠ array items) ∧ ∀ items, item ≠ struct items)
    (nested : List UInt8 → Nat → Option (List (Option MmsValue))) (tail : List UInt8) :
    createValue nested ⟨item.tag, item.content ++ tail, item.content.length⟩ =
      some (some item.created) := by
  cases item with
  | array items => exact absurd rfl (simple.1 items)
  | struct items => exact absurd rfl (simple.2 items)
  | boolean value => cases value <;> rfl
  | bitString size octets =>
    obtain ⟨positive, length, -⟩ := sendable
    have bytes := BerEncoder.bitStringByteSize_pos positive
    have padding := BerEncoder.padding_le size
    have covers := BerEncoder.size_le size
    have first : BerDecoder.octetAt ((bitString size octets).content ++ tail) 0 =
        UInt8.ofNat (BerEncoder.bitStringByteSize size * 8 - size) := rfl
    have bits : octets.length * 8 - (BerEncoder.bitStringByteSize size * 8 - size) = size := by
      omega
    rw [tag, createValue_0x84, first, toNat_padding, content_bitString, List.length_cons,
      if_neg (by omega), Nat.add_sub_cancel, List.cons_append, List.drop_succ_cons,
      List.drop_zero, List.take_left, bits, created]
  | integer octets =>
    have small : octets.length ≤ 8 := sendable
    rw [tag, content, createValue_0x85, if_neg (not_lt.mpr small), List.take_left, created]
  | unsigned octets =>
    have small : octets.length ≤ 8 := sendable
    rw [tag, content, createValue_0x86, if_neg (not_lt.mpr small), List.take_left, created]
  | float value =>
    cases value with
    | single bits =>
      rw [tag, content, createValue_0x87, Dataset.length_encodeFloat_single, if_neg (by decide),
        if_pos rfl, BerDecoder.decodeFloat_encodeFloat, created]
    | double bits =>
      rw [tag, content, createValue_0x87, length_encodeFloat_double, if_pos rfl,
        decodeDouble_encodeFloat, created]
  | octetString octets =>
    have taken : (octets ++ tail).take octets.length = octets := List.take_left
    exact congrArg (fun buffer => some (some (MmsValue.octetString octets.length octets.length
      buffer))) taken
  | visibleString text =>
    have taken : (text ++ tail).take text.length = text := List.take_left
    exact congrArg (fun buffer => some (some (MmsValue.visibleString text.length
      (buffer ++ [0])))) taken
  | binaryTime octets =>
    have known : octets.length = 4 ∨ octets.length = 6 := sendable
    rw [tag, content, createValue_0x8c, if_pos known, List.take_left, created]
  | utcTime octets =>
    have eight : octets.length = 8 := sendable
    rw [tag, content, eight, created]
    exact congrArg (fun time => some (some (MmsValue.utcTime time)))
      (UtcTime.setUtcTimeByBuffer_append eight tail)

theorem contains_tag_elements (items : List Datum) (rest : List UInt8) :
    (foundElements (elements items) rest).all
      (fun element => knownTags.contains element.tag) = true := by
  induction items with
  | nil => rfl
  | cons item items inductionHypothesis =>
    rw [elements, List.map_cons, foundElements, List.all_cons, contains_tag]
    exact inductionHypothesis

theorem length_contents_cons (item : Datum) (items : List Datum) :
    (content.contents (item :: items)).length =
      (encodeElement item.tag item.content).length + (content.contents items).length := by
  rw [content.contents, List.length_append]

/-- The content of an element is shorter than the element. -/
theorem length_content_lt (item : Datum) :
    item.content.length < (encodeElement item.tag item.content).length := by
  rw [encodeElement, List.length_cons, List.length_append]
  omega

theorem length_elements_lt {items : List Datum} {bound : Nat}
    (small : (content.contents items).length ≤ bound) :
    ∀ element ∈ elements items, element.2.length < bound := by
  induction items with
  | nil => exact List.forall_mem_nil _
  | cons item items inductionHypothesis =>
    rw [length_contents_cons] at small
    have shorter := length_content_lt item
    rw [elements, List.map_cons, List.forall_mem_cons]
    exact ⟨by dsimp only; omega, inductionHypothesis (by omega)⟩

mutual

/-- An element of the data of a message is created, at any depth. -/
theorem createValue_eq (item : Datum) (sendable : item.Sendable)
    (bound : item.content.length < 65535) (depth : Nat) (enough : item.content.length < depth)
    (tail : List UInt8) :
    createValue (parseAllDataUnknownValue depth)
        ⟨item.tag, item.content ++ tail, item.content.length⟩ = some (some item.created) := by
  cases item with
  | array items =>
    rw [tag, createValue_0xa1, content, parse_contents items sendable bound.le depth enough tail,
      created]
    rfl
  | struct items =>
    rw [tag, createValue_0xa2, content, parse_contents items sendable bound.le depth enough tail,
      created]
    rfl
  | _ => exact createValue_simple sendable ⟨nofun, nofun⟩ _ tail

theorem parse_contents (items : List Datum) (sendable : Sendable.AllSendable items)
    (bound : (content.contents items).length ≤ 65535) (depth : Nat)
    (enough : (content.contents items).length < depth) (rest : List UInt8) :
    parseAllDataUnknownValue depth (content.contents items ++ rest)
      (content.contents items).length = some (created.createdAll items) := by
  match depth, enough with
  | depth + 1, enough =>
    have made := createValues_eq items sendable bound depth (Nat.lt_succ_iff.mp enough) rest
    have walked := @allElements_encodeElements rest (elements items) (length_elements_lt bound)
    rw [← contents_eq] at walked
    rw [parseAllDataUnknownValue, walked]
    simp only [contains_tag_elements, if_true, made, Option.map_some, length_foundElements,
      createdAll_eq]
    rw [elements, List.length_map, List.length_map, Nat.sub_self, List.replicate_zero,
      List.append_nil]

theorem createValues_eq (items : List Datum) (sendable : Sendable.AllSendable items)
    (bound : (content.contents items).length ≤ 65535) (depth : Nat)
    (enough : (content.contents items).length ≤ depth) (rest : List UInt8) :
    createValues (parseAllDataUnknownValue depth) (foundElements (elements items) rest) =
      some (items.map created) := by
  match items with
  | [] => rfl
  | item :: items =>
    rw [length_contents_cons] at bound enough
    have shorter := length_content_lt item
    have first := createValue_eq item sendable.1 (by omega) depth (by omega)
      (encodeElements (elements items) ++ rest)
    have others := createValues_eq items sendable.2 (by omega) depth (by omega) rest
    rw [elements, List.map_cons, foundElements, ← elements, createValues, first, others]
    rfl

end

/-- The data of a message is created as it is. -/
theorem createDataSet_contents (items : List Datum) (sendable : Sendable.AllSendable items)
    (bound : (content.contents items).length ≤ 65535) (rest : List UInt8) :
    createDataSet (content.contents items ++ rest) (content.contents items).length =
      some (created.createdAll items) :=
  parse_contents items sendable bound _ (Nat.lt_succ_self _) rest

end Datum

/-! ### Data is stored over other data -/

namespace MmsValue

/-- The storage of a value takes some data whole: it is of the same type and size, and an integer
has the room. -/
def Fits : MmsValue → Datum → Prop
  | array components, .array items => AllFit components items
  | struct components, .struct items => AllFit components items
  | boolean _, .boolean _ => True
  | bitString size _, .bitString other _ => size = other
  | integer storage, .integer octets => octets.length ≤ storage.maxSize
  | unsigned storage, .unsigned octets => octets.length ≤ storage.maxSize
  | float old, .float new => floatSize old = floatSize new
  | octetString _ _ _, .octetString _ => True
  | visibleString _ _, .visibleString _ => True
  | binaryTime size _, .binaryTime octets => octets.length = size
  | utcTime _, .utcTime _ => True
  | _, _ => False
where
  AllFit : List (Option MmsValue) → List Datum → Prop
  | [], [] => True
  | some value :: rest, item :: items => value.Fits item ∧ AllFit rest items
  | _, _ => False

/-- The data in storage that takes the same data as before. -/
structure Stores (before after : MmsValue) (item : Datum) : Prop where
  datum : after.datum = item
  fits : ∀ other, after.Fits other ↔ before.Fits other

end MmsValue

section Switch

variable (buffer : List UInt8) (elementLength : Nat) (value : MmsValue)

theorem updateElement_0x84 :
    updateElement buffer 0x84 elementLength value =
      updateBitString buffer elementLength value := by
  rw [updateElement_primitive (by decide) (by decide)]
  rfl

theorem updateElement_0x89 :
    updateElement buffer 0x89 elementLength value =
      updateOctetString buffer elementLength value := by
  rw [updateElement_primitive (by decide) (by decide)]
  rfl

theorem updateElement_0x8a :
    updateElement buffer 0x8a elementLength value =
      updateVisibleString buffer elementLength value := by
  rw [updateElement_primitive (by decide) (by decide)]
  rfl

theorem updateElement_0x8c :
    updateElement buffer 0x8c elementLength value =
      updateBinaryTime buffer elementLength value := by
  rw [updateElement_primitive (by decide) (by decide)]
  rfl

theorem updateElement_0x91 : updateElement buffer 0x91 8 value = updateUtcTime buffer value := by
  rw [updateElement_primitive (by decide) (by decide)]
  rfl

theorem updateElement_0xa1 (components : List (Option MmsValue)) :
    updateElement buffer 0xa1 elementLength (.array components) =
      (.array (parseElements buffer elementLength 0 components).1,
        atSublevel (parseElements buffer elementLength 0 components).2) := by
  unfold updateElement
  rfl

theorem updateElement_0xa2 (components : List (Option MmsValue)) :
    updateElement buffer 0xa2 elementLength (.struct components) =
      (.struct (parseElements buffer elementLength 0 components).1,
        atSublevel (parseElements buffer elementLength 0 components).2) := by
  unfold updateElement
  rfl

end Switch

theorem updateBitString_eq {size : Nat} {octets : List UInt8} (buf : List UInt8)
    (length : octets.length = BerEncoder.bitStringByteSize size) (tail : List UInt8) :
    updateBitString ((Datum.bitString size octets).content ++ tail)
        (Datum.bitString size octets).content.length (.bitString size buf) =
      (.bitString size (overwrite buf octets), .noError) := by
  have padding := BerEncoder.padding_le size
  have covers := BerEncoder.size_le size
  have first : BerDecoder.octetAt ((Datum.bitString size octets).content ++ tail) 0 =
      UInt8.ofNat (BerEncoder.bitStringByteSize size * 8 - size) := rfl
  rw [updateBitString, first, toNat_padding, Datum.content_bitString, List.length_cons,
    if_neg (by omega), if_pos (by omega), Nat.add_sub_cancel, List.cons_append,
    List.drop_succ_cons, List.drop_zero, List.take_left]

namespace Datum

/-- The loop over the data of a message, from what the switch does with each element. -/
theorem parseElements_contents {items : List Datum} {values results : List MmsValue}
    (all : StoresAll (elements items) values results)
    (bound : (content.contents items).length ≤ 65535) (rest : List UInt8) :
    parseElements (content.contents items ++ rest) (content.contents items).length 0
      (values.map some) = (results.map some, .noError) := by
  have parsed := @parseElements_storesAll (elements items) values results all
    (content.contents items ++ rest) rest 0 (length_elements_lt bound)
    (by rw [List.drop_zero, contents_eq]) []
  rwa [← contents_eq, Nat.zero_add, List.append_nil, List.append_nil, if_pos rfl] at parsed

/-- Data that is not nested is stored over a value it fits, whatever stands behind it. -/
theorem updateElement_simple {item : Datum} {value : MmsValue} (fits : value.Fits item)
    (sendable : item.Sendable)
    (simple : (∀ items, item ≠ array items) ∧ ∀ items, item ≠ struct items) :
    ∃ stored, (∀ tail, updateElement (item.content ++ tail) item.tag item.content.length value =
        (stored, .noError)) ∧ value.Stores stored item := by
  cases item with
  | array items => exact absurd rfl (simple.1 items)
  | struct items => exact absurd rfl (simple.2 items)
  | boolean flag =>
    cases value with
    | boolean old =>
      refine ⟨.boolean flag, fun tail => ?_, rfl, fun other => ?_⟩
      · exact Dataset.updateElement_boolean flag old tail
      · cases other <;> exact Iff.rfl
    | _ => exact fits.elim
  | bitString size octets =>
    cases value with
    | bitString before buf =>
      obtain rfl : before = size := fits
      refine ⟨.bitString before (overwrite buf octets), fun tail => ?_, ?_, fun other => ?_⟩
      · rw [tag, updateElement_0x84, updateBitString_eq buf sendable.2.1]
      · rw [MmsValue.datum, overwrite, List.take_left' sendable.2.1, sendable.2.2]
      · cases other <;> exact Iff.rfl
    | _ => exact fits.elim
  | integer octets =>
    cases value with
    | integer storage =>
      have room : octets.length ≤ storage.maxSize := fits
      refine ⟨.integer (storage.store octets), fun tail => ?_, ?_, fun other => ?_⟩
      · rw [tag, content, updateElement_0x85, updateInteger, if_pos room, List.take_left]
      · rw [MmsValue.datum, Asn1PrimitiveValue.store, overwrite, List.take_left]
      · cases other <;> exact Iff.rfl
    | _ => exact fits.elim
  | unsigned octets =>
    cases value with
    | unsigned storage =>
      have room : octets.length ≤ storage.maxSize := fits
      refine ⟨.unsigned (storage.store octets), fun tail => ?_, ?_, fun other => ?_⟩
      · rw [tag, content, updateElement_0x86, updateUnsigned, if_pos room, List.take_left]
      · rw [MmsValue.datum, Asn1PrimitiveValue.store, overwrite, List.take_left]
      · cases other <;> exact Iff.rfl
    | _ => exact fits.elim
  | float new =>
    cases value with
    | float old =>
      have width : MmsValue.floatSize old = MmsValue.floatSize new := fits
      refine ⟨.float new, fun tail => ?_, rfl, fun other => ?_⟩
      · cases old with
        | single before =>
          cases new with
          | single bits => exact Dataset.updateElement_float bits (.single before) tail
          | double bits => exact absurd width (show ¬ 5 = 9 by decide)
        | double before =>
          cases new with
          | single bits => exact absurd width (show ¬ 9 = 5 by decide)
          | double bits =>
            rw [tag, content, updateElement_0x87, updateFloat, length_encodeFloat_double,
              if_pos rfl, decodeDouble_encodeFloat]
            rfl
      · cases other with
        | float another =>
          show MmsValue.floatSize new = _ ↔ MmsValue.floatSize old = _
          rw [width]
        | _ => exact Iff.rfl
    | _ => exact fits.elim
  | octetString octets =>
    cases value with
    | octetString size maxSize buf =>
      by_cases room : octets.length ≤ maxSize.natAbs
      · refine ⟨.octetString octets.length maxSize (overwrite buf octets), fun tail => ?_, ?_,
          fun other => ?_⟩
        · rw [tag, content, updateElement_0x89, updateOctetString, if_pos room, List.take_left]
        · rw [MmsValue.datum, overwrite, List.take_left]
        · cases other <;> exact Iff.rfl
      · refine ⟨.octetString octets.length (-octets.length) octets, fun tail => ?_, ?_,
          fun other => ?_⟩
        · rw [tag, content, updateElement_0x89, updateOctetString, if_neg room, List.take_left]
        · rw [MmsValue.datum, List.take_length]
        · cases other <;> exact Iff.rfl
    | _ => exact fits.elim
  | visibleString text =>
    cases value with
    | visibleString size buf =>
      by_cases room : text.length ≤ size
      · refine ⟨.visibleString size (overwrite buf (text ++ [0])), fun tail => ?_, ?_,
          fun other => ?_⟩
        · rw [tag, content, updateElement_0x8a, updateVisibleString, if_pos room, List.take_left]
        · rw [MmsValue.datum, overwrite, List.append_assoc, List.singleton_append,
            cString_append_zero sendable]
        · cases other <;> exact Iff.rfl
      · refine ⟨.visibleString text.length (text ++ [0]), fun tail => ?_, ?_, fun other => ?_⟩
        · rw [tag, content, updateElement_0x8a, updateVisibleString, if_neg room, List.take_left]
        · rw [MmsValue.datum, cString_append_zero sendable]
        · cases other <;> exact Iff.rfl
    | _ => exact fits.elim
  | binaryTime octets =>
    cases value with
    | binaryTime size buf =>
      obtain rfl : octets.length = size := fits
      have known : octets.length = 4 ∨ octets.length = 6 := sendable
      refine ⟨.binaryTime octets.length (overwrite buf octets), fun tail => ?_, ?_,
        fun other => ?_⟩
      · rw [tag, content, updateElement_0x8c, updateBinaryTime, if_pos known, List.take_left]
      · rw [MmsValue.datum, overwrite, List.take_left]
      · cases other <;> exact Iff.rfl
    | _ => exact fits.elim
  | utcTime octets =>
    cases value with
    | utcTime before =>
      have eight : octets.length = 8 := sendable
      refine ⟨.utcTime octets, fun tail => ?_, rfl, fun other => ?_⟩
      · rw [tag, content, eight, updateElement_0x91, updateUtcTime,
          UtcTime.setUtcTimeByBuffer_append eight]
      · cases other <;> exact Iff.rfl
    | _ => exact fits.elim

mutual

/-- Data is stored over a value it fits, at any depth. -/
theorem updateElement_eq (item : Datum) (value : MmsValue) (fits : value.Fits item)
    (sendable : item.Sendable) (bound : item.content.length < 65535) :
    ∃ stored, (∀ tail, updateElement (item.content ++ tail) item.tag item.content.length value =
        (stored, .noError)) ∧ value.Stores stored item := by
  cases item with
  | array items =>
    cases value with
    | array components =>
      obtain ⟨values, results, rfl, all, data, keeps⟩ :=
        storesAll_elements items components fits sendable bound.le
      refine ⟨.array (results.map some), fun tail => ?_, ?_, fun other => ?_⟩
      · rw [tag, content, updateElement_0xa1, parseElements_contents all bound.le]
        rfl
      · rw [MmsValue.datum, data]
      · cases other with
        | array others => exact keeps others
        | _ => exact Iff.rfl
    | _ => exact fits.elim
  | struct items =>
    cases value with
    | struct components =>
      obtain ⟨values, results, rfl, all, data, keeps⟩ :=
        storesAll_elements items components fits sendable bound.le
      refine ⟨.struct (results.map some), fun tail => ?_, ?_, fun other => ?_⟩
      · rw [tag, content, updateElement_0xa2, parseElements_contents all bound.le]
        rfl
      · rw [MmsValue.datum, data]
      · cases other with
        | struct others => exact keeps others
        | _ => exact Iff.rfl
    | _ => exact fits.elim
  | _ => exact updateElement_simple fits sendable ⟨nofun, nofun⟩

theorem storesAll_elements (items : List Datum) (components : List (Option MmsValue))
    (fits : MmsValue.Fits.AllFit components items) (sendable : Sendable.AllSendable items)
    (bound : (content.contents items).length ≤ 65535) :
    ∃ values results : List MmsValue, components = values.map some ∧
      StoresAll (elements items) values results ∧
      MmsValue.datum.data (results.map some) = items ∧
      ∀ others, MmsValue.Fits.AllFit (results.map some) others ↔
        MmsValue.Fits.AllFit (values.map some) others := by
  match items, components with
  | [], [] => exact ⟨[], [], rfl, .nil, rfl, fun others => Iff.rfl⟩
  | item :: items, some value :: components =>
    rw [length_contents_cons] at bound
    have shorter := length_content_lt item
    obtain ⟨stored, one, datum, fit⟩ :=
      updateElement_eq item value fits.1 sendable.1 (by omega)
    obtain ⟨values, results, rfl, all, data, keeps⟩ :=
      storesAll_elements items components fits.2 sendable.2 (by omega)
    refine ⟨value :: values, stored :: results, rfl, .cons one all, ?_, fun others => ?_⟩
    · rw [List.map_cons, MmsValue.datum.data, datum, data]
    · cases others with
      | nil => exact Iff.rfl
      | cons other others => exact and_congr (fit other) (keeps others)

end

/-! ### Data fits the storage that is created for it -/

theorem length_le_integerStorage {octets : List UInt8} (small : octets.length ≤ 8) :
    octets.length ≤ ((MmsValue.integerStorage (octets.length * 8)).store octets).maxSize := by
  rw [Asn1PrimitiveValue.store, MmsValue.integerStorage]
  split_ifs with short
  · exact (show octets.length ≤ 4 by omega).trans (show 4 ≤ 5 by decide)
  · exact small.trans (show 8 ≤ 9 by decide)

mutual

theorem fits_created (item : Datum) (sendable : item.Sendable) : item.created.Fits item := by
  cases item with
  | array items => exact allFit_createdAll items sendable
  | struct items => exact allFit_createdAll items sendable
  | bitString size octets => exact rfl
  | integer octets => exact length_le_integerStorage sendable
  | unsigned octets => exact length_le_integerStorage sendable
  | float value => exact rfl
  | binaryTime octets => exact rfl
  | _ => exact trivial

theorem allFit_createdAll (items : List Datum) (sendable : Sendable.AllSendable items) :
    MmsValue.Fits.AllFit (created.createdAll items) items := by
  match items with
  | [] => exact trivial
  | item :: items => exact ⟨fits_created item sendable.1, allFit_createdAll items sendable.2⟩

end

end Datum

end Substation
