/-
This file embeds `goose_receiver.c` for one subscriber that is not an observer:
the decoder that overwrites a retained data set (`parseAllData`), the one that
creates a data set from a message (`parseAllDataUnknownValue`), the payload and
the frame around it, and what they keep in the subscriber.

Loops that only read are folds over `elements`, the walk they share. In-place
decoding stops in the middle, so it is written as the source has it, on the
components from the current index on.
-/

import Substation.MmsValue

namespace Substation

inductive GooseParseError
  | noError
  | unknownTag
  | tagDecode
  | sublevel
  | overflow
  | underflow
  | typeMismatch
  | lengthMismatch
  | invalidPadding
  deriving DecidableEq, Repr

/-! ### parseAllData -/

/-! Each case of the switch of `parseAllData` gets the buffer from the content of the element on,
the length of the content and the component to overwrite. -/

def updateBoolean (buffer : List UInt8) : MmsValue → MmsValue × GooseParseError
  | .boolean _ => (.boolean (BerDecoder.decodeBoolean buffer 0), .noError)
  | other => (other, .typeMismatch)

def updateBitString (buffer : List UInt8) (elementLength : Nat) :
    MmsValue → MmsValue × GooseParseError
  | .bitString size buf =>
    let padding := (BerDecoder.octetAt buffer 0).toNat
    if 7 < padding then (.bitString size buf, .invalidPadding)
    else if (8 * ((elementLength : Int) - 1) - padding : Int) = size then
      (.bitString size (overwrite buf ((buffer.drop 1).take (elementLength - 1))), .noError)
    else (.bitString size buf, .lengthMismatch)
  | other => (other, .typeMismatch)

def updateInteger (buffer : List UInt8) (elementLength : Nat) :
    MmsValue → MmsValue × GooseParseError
  | .integer storage =>
    if elementLength ≤ storage.maxSize then
      (.integer (storage.store (buffer.take elementLength)), .noError)
    else (.integer storage, .lengthMismatch)
  | other => (other, .typeMismatch)

def updateUnsigned (buffer : List UInt8) (elementLength : Nat) :
    MmsValue → MmsValue × GooseParseError
  | .unsigned storage =>
    if elementLength ≤ storage.maxSize then
      (.unsigned (storage.store (buffer.take elementLength)), .noError)
    else (.unsigned storage, .lengthMismatch)
  | other => (other, .typeMismatch)

def updateFloat (buffer : List UInt8) (elementLength : Nat) :
    MmsValue → MmsValue × GooseParseError
  | .float storage =>
    if elementLength = 9 then
      (.float (storage.setDouble (BerDecoder.decodeDouble buffer 0)), .noError)
    else if elementLength = 5 then
      (.float (storage.setFloat (BerDecoder.decodeFloat buffer 0)), .noError)
    else (.float storage, .lengthMismatch)
  | other => (other, .typeMismatch)

def updateOctetString (buffer : List UInt8) (elementLength : Nat) :
    MmsValue → MmsValue × GooseParseError
  | .octetString _ maxSize buf =>
    if elementLength ≤ maxSize.natAbs then
      (.octetString elementLength maxSize (overwrite buf (buffer.take elementLength)), .noError)
    else (.octetString elementLength (-elementLength) (buffer.take elementLength), .noError)
  | other => (other, .typeMismatch)

def updateVisibleString (buffer : List UInt8) (elementLength : Nat) :
    MmsValue → MmsValue × GooseParseError
  | .visibleString size buf =>
    if elementLength ≤ size then
      (.visibleString size (overwrite buf (buffer.take elementLength ++ [0])), .noError)
    else (.visibleString elementLength (buffer.take elementLength ++ [0]), .noError)
  | other => (other, .typeMismatch)

/-- A binary time of another length is accepted without being stored. -/
def updateBinaryTime (buffer : List UInt8) (elementLength : Nat) :
    MmsValue → MmsValue × GooseParseError
  | .binaryTime size buf =>
    if elementLength = 4 ∨ elementLength = 6 then
      (.binaryTime size (overwrite buf (buffer.take elementLength)), .noError)
    else (.binaryTime size buf, .noError)
  | other => (other, .typeMismatch)

def updateUtcTime (buffer : List UInt8) : MmsValue → MmsValue × GooseParseError
  | .utcTime _ => (.utcTime (UtcTime.setUtcTimeByBuffer buffer), .noError)
  | other => (other, .typeMismatch)

/-- The cases for data that is not nested. A reserved element is accepted without being stored. -/
def updatePrimitive (buffer : List UInt8) (tag : UInt8) (elementLength : Nat) (value : MmsValue) :
    MmsValue × GooseParseError :=
  if tag = 0x80 then (value, .noError)
  else if tag = 0x83 then updateBoolean buffer value
  else if tag = 0x84 then updateBitString buffer elementLength value
  else if tag = 0x85 then updateInteger buffer elementLength value
  else if tag = 0x86 then updateUnsigned buffer elementLength value
  else if tag = 0x87 then updateFloat buffer elementLength value
  else if tag = 0x89 then updateOctetString buffer elementLength value
  else if tag = 0x8a then updateVisibleString buffer elementLength value
  else if tag = 0x8c then updateBinaryTime buffer elementLength value
  else if tag = 0x91 then
    if elementLength = 8 then updateUtcTime buffer value else (value, .lengthMismatch)
  else (value, .unknownTag)

/-- An error inside an array or a structure is reported as such to the level above. -/
def atSublevel (error : GooseParseError) : GooseParseError :=
  if error = .noError then .noError else .sublevel

mutual

/-- The switch of `parseAllData` on one element. -/
def updateElement (buffer : List UInt8) (tag : UInt8) (elementLength : Nat) (value : MmsValue) :
    MmsValue × GooseParseError :=
  if tag = 0xa1 then
    match value with
    | .array components =>
      let parsed := parseElements buffer elementLength 0 components
      (.array parsed.1, atSublevel parsed.2)
    | other => (other, .typeMismatch)
  else if tag = 0xa2 then
    match value with
    | .struct components =>
      let parsed := parseElements buffer elementLength 0 components
      (.struct parsed.1, atSublevel parsed.2)
    | other => (other, .typeMismatch)
  else updatePrimitive buffer tag elementLength value

/-- The loop of `parseAllData` from a position of the buffer and an index on: the components
from that index on, as they are left, and the error. -/
def parseElements (buffer : List UInt8) (allDataLength bufPos : Nat) :
    List (Option MmsValue) → List (Option MmsValue) × GooseParseError
  | [] => ([], if bufPos < allDataLength then .overflow else .noError)
  | none :: rest => (none :: rest, if bufPos < allDataLength then .typeMismatch else .underflow)
  | some value :: rest =>
    if bufPos < allDataLength then
      match BerDecoder.decodeLength buffer (bufPos + 1) allDataLength with
      | none => (some value :: rest, .tagDecode)
      | some (elementLength, content) =>
        let updated := updateElement (buffer.drop content) (BerDecoder.octetAt buffer bufPos)
          elementLength value
        if updated.2 = .noError then
          let parsed := parseElements buffer allDataLength (content + elementLength) rest
          (some updated.1 :: parsed.1, parsed.2)
        else (some updated.1 :: rest, updated.2)
    else (some value :: rest, .underflow)

end

/-- `parseAllData` on the components of the retained data set. -/
def parseAllData (buffer : List UInt8) (allDataLength : Nat) (components : List (Option MmsValue)) :
    List (Option MmsValue) × GooseParseError :=
  parseElements buffer allDataLength 0 components

/-! ### parseAllDataUnknownValue -/

/-- The tags the counting pass lets through. -/
def knownTags : List UInt8 :=
  [0x80, 0xa1, 0xa2, 0x83, 0x84, 0x85, 0x86, 0x87, 0x89, 0x8a, 0x8c, 0x91]

/-- The value the second pass creates for an element. The outer `none` is the error exit, the
inner one an element that is passed over. The components of a nested element are those `nested`
creates. -/
def createValue (nested : List UInt8 → Nat → Option (List (Option MmsValue))) (element : Element) :
    Option (Option MmsValue) :=
  let buffer := element.content
  let elementLength := element.length
  if element.tag = 0xa1 then (nested buffer elementLength).map fun components =>
    some (.array components)
  else if element.tag = 0xa2 then (nested buffer elementLength).map fun components =>
    some (.struct components)
  else if element.tag = 0x83 then
    if 0 < elementLength then
      some (some (MmsValue.newBoolean (BerDecoder.decodeBoolean buffer 0)))
    else none
  else if element.tag = 0x84 then
    let padding := (BerDecoder.octetAt buffer 0).toNat
    if elementLength ≤ 1 ∨ 7 < padding then none
    else some (some (.bitString ((elementLength - 1) * 8 - padding)
      ((buffer.drop 1).take (elementLength - 1))))
  else if element.tag = 0x85 then
    if 8 < elementLength then none
    else some (some (.integer
      ((MmsValue.integerStorage (elementLength * 8)).store (buffer.take elementLength))))
  else if element.tag = 0x86 then
    if 8 < elementLength then none
    else some (some (.unsigned
      ((MmsValue.integerStorage (elementLength * 8)).store (buffer.take elementLength))))
  else if element.tag = 0x87 then
    if elementLength = 9 then
      some (some (MmsValue.newDouble (BerDecoder.decodeDouble buffer 0)))
    else if elementLength = 5 then
      some (some (MmsValue.newFloat (BerDecoder.decodeFloat buffer 0)))
    else some none
  else if element.tag = 0x89 then
    some (some (.octetString elementLength elementLength (buffer.take elementLength)))
  else if element.tag = 0x8a then
    some (some (.visibleString elementLength (buffer.take elementLength ++ [0])))
  else if element.tag = 0x8c then
    if elementLength = 4 ∨ elementLength = 6 then
      some (some (.binaryTime elementLength
        (overwrite (List.replicate 6 0) (buffer.take elementLength))))
    else some none
  else if element.tag = 0x91 then
    if elementLength = 8 then some (some (.utcTime (UtcTime.setUtcTimeByBuffer buffer)))
    else some none
  else none

/-- The values of the second pass, in order, without the elements passed over. -/
def createValues (nested : List UInt8 → Nat → Option (List (Option MmsValue))) :
    List Element → Option (List MmsValue)
  | [] => some []
  | element :: rest =>
    match createValue nested element with
    | none => none
    | some none => createValues nested rest
    | some (some value) => (createValues nested rest).map (value :: ·)

/-- `parseAllDataUnknownValue`: the components of the array or structure it creates, one for each
element counted, the last ones absent when elements were passed over. The first argument is the
nesting still allowed; the length of the data bounds it. -/
def parseAllDataUnknownValue : Nat → List UInt8 → Nat → Option (List (Option MmsValue))
  | 0, _, _ => none
  | depth + 1, buffer, allDataLength =>
    match allElements buffer allDataLength with
    | none => none
    | some found =>
      if found.all fun element => knownTags.contains element.tag then
        (createValues (parseAllDataUnknownValue depth) found).map fun values =>
          values.map some ++ List.replicate (found.length - values.length) none
      else none

/-- The data set created from the data of a message. -/
def createDataSet (buffer : List UInt8) (allDataLength : Nat) : Option (List (Option MmsValue)) :=
  parseAllDataUnknownValue (allDataLength + 1) buffer allDataLength

/-! ### The subscriber -/

/-- What the subscriber program configures. -/
structure SubscriberParameters where
  goCBRef : List UInt8
  appId : Nat
  dstMac : List UInt8

/-- What the receiver keeps of the messages. The data set is an array; `none` is `NULL`. -/
structure GooseSubscriber where
  timeAllowedToLive : BitVec 32
  ndsCom : Bool
  simulation : Bool
  confRev : BitVec 32
  stNum : BitVec 32
  sqNum : BitVec 32
  timestamp : List UInt8
  dataSetValues : Option (List (Option MmsValue))
  parseError : GooseParseError
  stateValid : Bool
  invalidityTime : Nat

namespace GooseSubscriber

/-- `GooseSubscriber_create` without a data set. -/
def create : GooseSubscriber where
  timeAllowedToLive := 0
  ndsCom := false
  simulation := false
  confRev := 0
  stNum := 0
  sqNum := 0
  timestamp := List.replicate 8 0
  dataSetValues := none
  parseError := .noError
  stateValid := false
  invalidityTime := 0

def isValid (self : GooseSubscriber) (now : Nat) : Bool :=
  self.stateValid && decide (now ≤ self.invalidityTime)

end GooseSubscriber

/-! ### parseGoosePayload -/

/-- The local variables of `parseGoosePayload`. -/
structure PayloadFields where
  timeAllowedToLive : BitVec 32
  stNum : BitVec 32
  sqNum : BitVec 32
  confRev : BitVec 32
  simulation : Bool
  ndsCom : Bool
  matching : Bool
  timestampBuffer : Option (List UInt8)
  dataSetBuffer : List UInt8
  dataSetBufferLength : Nat
  deriving DecidableEq, Repr

namespace PayloadFields

def start : PayloadFields where
  timeAllowedToLive := 0
  stNum := 0
  sqNum := 0
  confRev := 0
  simulation := false
  ndsCom := false
  matching := false
  timestampBuffer := none
  dataSetBuffer := []
  dataSetBufferLength := 0

/-- The switch on one element. A reference that does not match ends the payload, unless an
earlier one did. The references to data set and message are only kept for display. -/
def read (parameters : SubscriberParameters) (self : PayloadFields) (element : Element) :
    Option PayloadFields :=
  let uint32 := BerDecoder.decodeUint32 element.content element.length 0
  if element.tag = 0x80 then
    if parameters.goCBRef.length = element.length ∧
        parameters.goCBRef = element.content.take element.length then
      some { self with matching := true }
    else if self.matching then some self
    else none
  else if element.tag = 0x81 then some { self with timeAllowedToLive := uint32 }
  else if element.tag = 0x84 then some { self with timestampBuffer := some element.content }
  else if element.tag = 0x85 then some { self with stNum := uint32 }
  else if element.tag = 0x86 then some { self with sqNum := uint32 }
  else if element.tag = 0x87 then
    some { self with simulation := BerDecoder.decodeBoolean element.content 0 }
  else if element.tag = 0x88 then some { self with confRev := uint32 }
  else if element.tag = 0x89 then
    some { self with ndsCom := BerDecoder.decodeBoolean element.content 0 }
  else if element.tag = 0xab then
    some { self with dataSetBuffer := element.content, dataSetBufferLength := element.length }
  else some self

def readAll (parameters : SubscriberParameters) : PayloadFields → List Element →
    Option PayloadFields
  | self, [] => some self
  | self, element :: rest =>
    match self.read parameters element with
    | none => none
    | some self => readAll parameters self rest

end PayloadFields

/-- The fields of a payload that is addressed to the subscriber. -/
def payloadFields (parameters : SubscriberParameters) (buffer : List UInt8) (apduLength : Nat) :
    Option PayloadFields :=
  if BerDecoder.octetAt buffer 0 = 0x61 then
    match BerDecoder.decodeLength buffer 1 apduLength with
    | none => none
    | some (gooseLength, bufPos) =>
      match elements buffer apduLength (bufPos + gooseLength) (apduLength + 1) bufPos with
      | none => none
      | some found =>
        (PayloadFields.start.readAll parameters found).filter fun fields => fields.matching
  else none

namespace GooseSubscriber

/-- The data set in force when the data of a message is read: a change of `confRev` drops the
one created before. -/
def retained (self : GooseSubscriber) (confRev : BitVec 32) : Option (List (Option MmsValue)) :=
  if self.confRev = confRev then self.dataSetValues else none

/-- The data set and the parse error after the data of a message, and whether it was read
without an error. A data set that could not be created is not an error. -/
def readData (self : GooseSubscriber) (fields : PayloadFields) :
    Option (List (Option MmsValue)) × GooseParseError × Bool :=
  match self.retained fields.confRev with
  | none => (createDataSet fields.dataSetBuffer fields.dataSetBufferLength, self.parseError, true)
  | some components =>
    let parsed := parseAllData fields.dataSetBuffer fields.dataSetBufferLength components
    (some parsed.1, parsed.2, parsed.2 = .noError)

/-- The subscriber after a payload with some fields, at time `now`. -/
def accept (self : GooseSubscriber) (fields : PayloadFields) (now : Nat) : GooseSubscriber :=
  let data := self.readData fields
  { timeAllowedToLive := fields.timeAllowedToLive
    ndsCom := fields.ndsCom
    simulation := fields.simulation
    confRev := fields.confRev
    stNum := fields.stNum
    sqNum := fields.sqNum
    timestamp := match fields.timestampBuffer with
      | some buffer => UtcTime.setUtcTimeByBuffer buffer
      | none => UtcTime.setUtcTime self.timestamp 0
    dataSetValues := data.1
    parseError := data.2.1
    stateValid := data.2.2 && !(self.stNum = fields.stNum && fields.sqNum ≤ self.sqNum)
    invalidityTime := (now + fields.timeAllowedToLive.toNat) % 2 ^ 64 }

end GooseSubscriber

/-! ### parseGooseMessage -/

def uint16At (buffer : List UInt8) (bufPos : Nat) : Nat :=
  (BerDecoder.octetAt buffer bufPos).toNat * 0x100 + (BerDecoder.octetAt buffer (bufPos + 1)).toNat

/-- The payload of a frame for the subscriber: the buffer from it on, and its length. -/
def gooseApdu (parameters : SubscriberParameters) (buffer : List UInt8) (numbytes : Nat) :
    Option (List UInt8 × Nat) :=
  let vlanSet := BerDecoder.octetAt buffer 12 = 0x81 ∧ BerDecoder.octetAt buffer 13 = 0x00
  let bufPos := if vlanSet then 16 else 12
  let length := uint16At buffer (bufPos + 4)
  if numbytes < 22 then none
  else if vlanSet ∧ numbytes < 26 then none
  else if BerDecoder.octetAt buffer bufPos ≠ 0x88 then none
  else if BerDecoder.octetAt buffer (bufPos + 1) ≠ 0xb8 then none
  else if length < 8 then none
  else if numbytes < length + (bufPos + 2) then none
  else if parameters.appId = uint16At buffer (bufPos + 2) ∧ parameters.dstMac = buffer.take 6 then
    some (buffer.drop (bufPos + 10), length - 8)
  else none

/-- The fields of a frame that makes the receiver call the listener. -/
def frameFields (parameters : SubscriberParameters) (buffer : List UInt8) (numbytes : Nat) :
    Option PayloadFields :=
  (gooseApdu parameters buffer numbytes).bind fun apdu => payloadFields parameters apdu.1 apdu.2

end Substation
