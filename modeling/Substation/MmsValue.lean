/-
This file embeds the MMS data values of the GOOSE stack: what `mms_value.c`
stores, how it reads and writes it, and how `mms_access_result.c` encodes it.

A component of an array or of a structure is a pointer that may be `NULL`, so it
is an `Option`. The values of an MMS string and of a data access error are left
out: no decoder of GOOSE creates them.
-/

import Substation.Tlv
import Substation.Lib.Ieee

namespace Substation

/-! ### The values -/

inductive MmsType
  | array
  | struct
  | boolean
  | bitString
  | integer
  | unsigned
  | float
  | octetString
  | visibleString
  | binaryTime
  | utcTime
  deriving DecidableEq, Repr

/-- The storage of a float, by its format width. -/
inductive FloatingPoint
  | single (bits : BitVec 32)
  | double (bits : BitVec 64)
  deriving DecidableEq, Repr

inductive MmsValue
  | array (components : List (Option MmsValue))
  | struct (components : List (Option MmsValue))
  | boolean (value : Bool)
  | bitString (size : Nat) (buf : List UInt8)
  | integer (value : Asn1PrimitiveValue)
  | unsigned (value : Asn1PrimitiveValue)
  | float (value : FloatingPoint)
  | octetString (size : Nat) (maxSize : Int) (buf : List UInt8)
  | visibleString (size : Nat) (buf : List UInt8)
  | binaryTime (size : Nat) (buf : List UInt8)
  | utcTime (octets : List UInt8)

namespace MmsValue

def getType : MmsValue → MmsType
  | array _ => .array
  | struct _ => .struct
  | boolean _ => .boolean
  | bitString _ _ => .bitString
  | integer _ => .integer
  | unsigned _ => .unsigned
  | float _ => .float
  | octetString _ _ _ => .octetString
  | visibleString _ _ => .visibleString
  | binaryTime _ _ => .binaryTime
  | utcTime _ => .utcTime

/-- The storage that `MmsValue_newInteger` and `MmsValue_newUnsigned` take for some bits. -/
def integerStorage (size : Nat) : Asn1PrimitiveValue :=
  if size ≤ 32 then BerInteger.createInt32 else BerInteger.createInt64

def newIntegerFromInt32 (value : BitVec 32) : MmsValue :=
  integer (BerInteger.createFromInt32 value)

def newBoolean (value : Bool) : MmsValue := boolean value

def newFloat (value : BitVec 32) : MmsValue := float (.single value)

def newDouble (value : BitVec 64) : MmsValue := float (.double value)

/-- `MmsValue_getBoolean` does not look at the type: of a value of another type it reads `stray`,
whatever the storage holds in the place of the flag. -/
def getBoolean (stray : Bool) : MmsValue → Bool
  | boolean value => value
  | _ => stray

def toInt32 : MmsValue → BitVec 32
  | integer value => BerInteger.toInt32 value
  | unsigned value => BerInteger.toInt32 value
  | _ => 0

def toFloat : MmsValue → BitVec 32
  | float (.single bits) => bits
  | float (.double bits) => Ieee.narrow bits
  | _ => 0

end MmsValue

namespace FloatingPoint

/-- `MmsValue_setFloat` keeps the width of the storage. -/
def setFloat : FloatingPoint → BitVec 32 → FloatingPoint
  | single _, bits => single bits
  | double _, bits => double (Ieee.widen bits)

def setDouble : FloatingPoint → BitVec 64 → FloatingPoint
  | single _, bits => single (Ieee.narrow bits)
  | double _, bits => double bits

end FloatingPoint

/-! ### UTC times -/

namespace UtcTime

/-- `setUtcTimeMs`: the seconds, a fraction of `2 ^ 24` and the quality of a ten bit clock. -/
def setUtcTimeMs (timeval : Nat) : List UInt8 :=
  let remainder := timeval % 1000
  Octets.ofNat 4 (timeval / 1000) ++
    Octets.ofNat 3 (remainder * 16777 + remainder * 216 / 1000) ++ [0x0a]

/-- `MmsValue_setUtcTime` writes the seconds only. -/
def setUtcTime (octets : List UInt8) (timeval : Nat) : List UInt8 :=
  overwrite octets (Octets.ofNat 4 timeval)

/-- `MmsValue_setUtcTimeByBuffer` copies eight octets, whatever the element's length was. -/
def setUtcTimeByBuffer (buffer : List UInt8) : List UInt8 :=
  (List.range 8).map (BerDecoder.octetAt buffer)

def getUtcTimeInMs (octets : List UInt8) : Nat :=
  Octets.unsigned (octets.take 4) * 1000 + Octets.unsigned ((octets.drop 4).take 3) / 16777

end UtcTime

/-! ### Encoding of data -/

namespace BerEncoder

def encodeAsn1PrimitiveValue (tag : UInt8) (value : Asn1PrimitiveValue) : List UInt8 :=
  tag :: (encodeLength value.size ++ value.octets.take value.size)

def bitStringByteSize (bitStringSize : Nat) : Nat :=
  bitStringSize / 8 + if bitStringSize % 8 = 0 then 0 else 1

/-- The padding bits of the last octet are cleared; that octet is the padding itself in an empty
string. -/
def encodeBitString (tag : UInt8) (bitStringSize : Nat) (bitString : List UInt8) : List UInt8 :=
  let byteSize := bitStringByteSize bitStringSize
  let padding := byteSize * 8 - bitStringSize
  let octets := UInt8.ofNat padding :: bitString.take byteSize
  tag :: (encodeLength (byteSize + 1) ++ octets.dropLast ++
    (octets.getLast?.map fun last => last &&& ~~~ UInt8.ofNat (2 ^ padding - 1)).toList)

def determineEncodedBitStringSize (bitStringSize : Nat) : Nat :=
  2 + determineLengthSize (bitStringByteSize bitStringSize) + bitStringByteSize bitStringSize

/-- The exponent width and the octets of the pattern in network order. -/
def encodeFloat : FloatingPoint → List UInt8
  | .single bits => 8 :: Octets.ofNat 4 bits.toNat
  | .double bits => 11 :: Octets.ofNat 8 bits.toNat

end BerEncoder

namespace MmsValue

def floatSize : FloatingPoint → Nat
  | .single _ => 5
  | .double _ => 9

/-- A C string ends at its first zero octet. -/
def cString (buf : List UInt8) : List UInt8 := buf.takeWhile (· ≠ 0)

/-- `MmsValue_encodeMmsData` with `encode` false: the size of an encoding. An absent component
would be read through `NULL`; no modelled data set holds one when it is sent. -/
def encodedSize : MmsValue → Nat
  | array components => 1 + sizes components + BerEncoder.determineLengthSize (sizes components)
  | struct components => 1 + sizes components + BerEncoder.determineLengthSize (sizes components)
  | boolean _ => 3
  | bitString size _ => BerEncoder.determineEncodedBitStringSize size
  | integer value => 2 + value.size
  | unsigned value => 2 + value.size
  | float value => floatSize value + 2
  | octetString size _ _ => 1 + BerEncoder.determineLengthSize size + size
  | visibleString _ buf => BerEncoder.determineEncodedStringSize (cString buf)
  | binaryTime size _ => 2 + size
  | utcTime _ => 10
where
  sizes : List (Option MmsValue) → Nat
  | [] => 0
  | none :: rest => sizes rest
  | some value :: rest => encodedSize value + sizes rest

/-- `MmsValue_encodeMmsData` with `encode` true. -/
def encodeMmsData : MmsValue → List UInt8
  | array components =>
    BerEncoder.encodeTL 0xa1 (encodedSize.sizes components) ++ encodings components
  | struct components =>
    BerEncoder.encodeTL 0xa2 (encodedSize.sizes components) ++ encodings components
  | boolean value => BerEncoder.encodeBoolean 0x83 value
  | bitString size buf => BerEncoder.encodeBitString 0x84 size buf
  | integer value => BerEncoder.encodeAsn1PrimitiveValue 0x85 value
  | unsigned value => BerEncoder.encodeAsn1PrimitiveValue 0x86 value
  | float value => BerEncoder.encodeTL 0x87 (floatSize value) ++ BerEncoder.encodeFloat value
  | octetString size _ buf => BerEncoder.encodeOctetString 0x89 (buf.take size)
  | visibleString _ buf => BerEncoder.encodeStringWithTag 0x8a (cString buf)
  | binaryTime size buf => BerEncoder.encodeOctetString 0x8c (buf.take size)
  | utcTime octets => BerEncoder.encodeOctetString 0x91 octets
where
  encodings : List (Option MmsValue) → List UInt8
  | [] => []
  | none :: rest => encodings rest
  | some value :: rest => encodeMmsData value ++ encodings rest

end MmsValue

/-! ### What is written is read back -/

/-- The milliseconds of a time before the year 2106 survive the 24-bit fraction. -/
theorem UtcTime.getUtcTimeInMs_setUtcTimeMs {timeval : Nat} (bound : timeval / 1000 < 2 ^ 32) :
    getUtcTimeInMs (setUtcTimeMs timeval) = timeval := by
  have remainder : timeval % 1000 < 1000 := Nat.mod_lt _ (by decide)
  have fraction : timeval % 1000 * 16777 + timeval % 1000 * 216 / 1000 < 256 ^ 3 := by omega
  have seconds : (setUtcTimeMs timeval).take 4 = Octets.ofNat 4 (timeval / 1000) := by
    rw [setUtcTimeMs, List.append_assoc, List.take_left' (Octets.length_ofNat 4 _)]
  have rest : ((setUtcTimeMs timeval).drop 4).take 3 =
      Octets.ofNat 3 (timeval % 1000 * 16777 + timeval % 1000 * 216 / 1000) := by
    rw [setUtcTimeMs, List.append_assoc, List.drop_left' (Octets.length_ofNat 4 _),
      List.take_left' (Octets.length_ofNat 3 _)]
  rw [getUtcTimeInMs, seconds, rest, Octets.unsigned_ofNat_of_lt bound,
    Octets.unsigned_ofNat_of_lt fraction]
  omega

theorem UtcTime.length_setUtcTimeMs (timeval : Nat) : (setUtcTimeMs timeval).length = 8 := by
  rw [setUtcTimeMs, List.length_append, List.length_append, Octets.length_ofNat,
    Octets.length_ofNat]
  rfl

theorem UtcTime.setUtcTimeByBuffer_append {octets : List UInt8} (size : octets.length = 8)
    (rest : List UInt8) : setUtcTimeByBuffer (octets ++ rest) = octets := by
  match octets, size with
  | [_, _, _, _, _, _, _, _], _ => rfl

theorem BerDecoder.decodeFloat_encodeFloat (bits : BitVec 32) (rest : List UInt8) :
    decodeFloat (BerEncoder.encodeFloat (.single bits) ++ rest) 0 = bits := by
  have bound : bits.toNat < 256 ^ 4 := bits.isLt
  rw [decodeFloat, BerEncoder.encodeFloat, List.cons_append, zero_add, List.drop_succ_cons,
    List.drop_zero, List.take_left' (Octets.length_ofNat 4 _), Octets.unsigned_ofNat_of_lt bound,
    BitVec.ofNat_toNat, BitVec.setWidth_eq]

namespace MmsValue

/-- A 32-bit pattern stored in a float of either width is read back, unless it is a signalling
`NaN` in a wide one. -/
theorem toFloat_setFloat (storage : FloatingPoint) {bits : BitVec 32}
    (number : ¬ Ieee.IsNan Ieee.binary32 bits.toNat) :
    toFloat (float (storage.setFloat bits)) = bits := by
  cases storage with
  | single _ => rfl
  | double _ => exact Ieee.narrow_widen number

theorem encodeMmsData_newBoolean (value : Bool) :
    encodeMmsData (newBoolean value) = encodeElement 0x83 [if value then 1 else 0] := rfl

theorem encodeMmsData_newIntegerFromInt32 (value : BitVec 32) :
    encodeMmsData (newIntegerFromInt32 value) =
      encodeElement 0x85 (BerInteger.int32Octets value) := by
  rw [newIntegerFromInt32, BerInteger.createFromInt32_eq, encodeMmsData,
    BerEncoder.encodeAsn1PrimitiveValue, encodeElement, Asn1PrimitiveValue.store, overwrite,
    List.take_left' rfl]

theorem encodeMmsData_newFloat (bits : BitVec 32) :
    encodeMmsData (newFloat bits) =
      encodeElement 0x87 (BerEncoder.encodeFloat (.single bits)) := by
  rw [newFloat, encodeMmsData, encodeElement, BerEncoder.encodeTL, BerEncoder.encodeFloat,
    List.length_cons, Octets.length_ofNat]
  rfl

/-- The first pass of the encoder announces what the second one writes. -/
theorem encodedSize_newIntegerFromInt32 (value : BitVec 32) :
    encodedSize (newIntegerFromInt32 value) = 2 + (BerInteger.int32Octets value).length := by
  rw [newIntegerFromInt32, BerInteger.createFromInt32_eq]
  rfl

end MmsValue

end Substation
