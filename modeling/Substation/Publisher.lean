/-
This file embeds `goose_publisher.c`: the numbering of messages, the two passes
of the encoder and the frame around the payload, with the configuration that
`main` of the publisher program gives it.

The main result is `publish_eq`: a publication of the program never fails, and
its frame carries one element for each field of the message.
-/

import Substation.MmsValue

namespace Substation

/-- The octets of an ASCII string. -/
def asciiOctets (text : String) : List UInt8 :=
  text.toList.map fun character => UInt8.ofNat character.toNat

/-! ### goose_publisher.c -/

structure CommParameters where
  vlanPriority : UInt8
  vlanId : Nat
  appId : Nat
  dstAddress : List UInt8

/-- The publisher with the part of its buffer before the payload. -/
structure GoosePublisher where
  buffer : List UInt8
  lengthField : Nat
  goID : Option (List UInt8)
  goCBRef : List UInt8
  dataSetRef : List UInt8
  confRev : BitVec 32
  stNum : BitVec 32
  sqNum : BitVec 32
  timeAllowedToLive : BitVec 32
  needsCommission : Bool
  simulation : Bool
  timestamp : List UInt8

namespace GoosePublisher

def gooseMaxMessageSize : Nat := 1518

/-- The Ethernet header, and the position of the length field in it. -/
def prepareGooseBuffer (parameters : CommParameters) (srcAddr : List UInt8) (useVlanTags : Bool) :
    List UInt8 × Nat :=
  let addresses := parameters.dstAddress ++ srcAddr
  let priorityTag : List UInt8 :=
    if useVlanTags then
      [0x81, 0x00, (parameters.vlanPriority <<< 5) + UInt8.ofNat (parameters.vlanId / 256),
        UInt8.ofNat (parameters.vlanId % 256)]
    else []
  let start := addresses ++ priorityTag ++
    [0x88, 0xb8, UInt8.ofNat (parameters.appId / 256), UInt8.ofNat (parameters.appId % 256)]
  (start ++ [0x00, 0x08, 0x00, 0x00, 0x00, 0x00], start.length)

/-- `GoosePublisher_create`, with VLAN tags and `GoosePublisher_reset`. -/
def create (parameters : CommParameters) (srcAddr : List UInt8) (now : Nat) : GoosePublisher where
  buffer := (prepareGooseBuffer parameters srcAddr true).1
  lengthField := (prepareGooseBuffer parameters srcAddr true).2
  goID := none
  goCBRef := []
  dataSetRef := []
  confRev := 0
  stNum := 1
  sqNum := 0
  timeAllowedToLive := 0
  needsCommission := false
  simulation := false
  timestamp := UtcTime.setUtcTimeMs now

def increaseStNum (self : GoosePublisher) (currentTime : Nat) : GoosePublisher :=
  { self with
    timestamp := UtcTime.setUtcTimeMs currentTime
    stNum := if self.stNum + 1 = 0 then 1 else self.stNum + 1
    sqNum := 0 }

/-- The first pass of `createGoosePayload`: the length of the data set. -/
def dataSetSize (dataSetValues : List MmsValue) : Nat :=
  (dataSetValues.map MmsValue.encodedSize).sum

/-- The first pass of `createGoosePayload`: the length of the PDU. -/
def goosePduLength (self : GoosePublisher) (dataSetValues : List MmsValue) : Nat :=
  BerEncoder.determineEncodedStringSize self.goCBRef +
    (2 + BerEncoder.uint32DetermineEncodedSize self.timeAllowedToLive) +
    BerEncoder.determineEncodedStringSize self.dataSetRef +
    BerEncoder.determineEncodedStringSize (self.goID.getD self.goCBRef) +
    (2 + 8) +
    (2 + BerEncoder.uint32DetermineEncodedSize self.sqNum) +
    (2 + BerEncoder.uint32DetermineEncodedSize self.stNum) +
    (2 + BerEncoder.uint32DetermineEncodedSize self.confRev) +
    6 +
    (2 + BerEncoder.uint32DetermineEncodedSize (BitVec.ofNat 32 dataSetValues.length)) +
    (dataSetSize dataSetValues +
      BerEncoder.determineLengthSize (dataSetSize dataSetValues) + 1)

/-- The second pass of `createGoosePayload`. -/
def encodePayload (self : GoosePublisher) (dataSetValues : List MmsValue) : List UInt8 :=
  BerEncoder.encodeTL 0x61 (self.goosePduLength dataSetValues) ++
    BerEncoder.encodeStringWithTag 0x80 self.goCBRef ++
    BerEncoder.encodeUInt32WithTL 0x81 self.timeAllowedToLive ++
    BerEncoder.encodeStringWithTag 0x82 self.dataSetRef ++
    BerEncoder.encodeStringWithTag 0x83 (self.goID.getD self.goCBRef) ++
    BerEncoder.encodeOctetString 0x84 self.timestamp ++
    BerEncoder.encodeUInt32WithTL 0x85 self.stNum ++
    BerEncoder.encodeUInt32WithTL 0x86 self.sqNum ++
    BerEncoder.encodeBoolean 0x87 self.simulation ++
    BerEncoder.encodeUInt32WithTL 0x88 self.confRev ++
    BerEncoder.encodeBoolean 0x89 self.needsCommission ++
    BerEncoder.encodeUInt32WithTL 0x8a (BitVec.ofNat 32 dataSetValues.length) ++
    BerEncoder.encodeTL 0xab (dataSetSize dataSetValues) ++
    dataSetValues.flatMap MmsValue.encodeMmsData

/-- A payload that does not fit is not encoded; the source returns `-1`. -/
def createGoosePayload (self : GoosePublisher) (dataSetValues : List MmsValue)
    (maxPayloadSize : Nat) : Option (List UInt8) :=
  let goosePduLength := self.goosePduLength dataSetValues
  let payloadSize := 1 + BerEncoder.determineLengthSize goosePduLength + goosePduLength
  if maxPayloadSize < payloadSize then none else some (self.encodePayload dataSetValues)

/-- `GoosePublisher_publish`: the publisher afterwards and the packet it sends. -/
def publish (self : GoosePublisher) (dataSet : List MmsValue) :
    Option (GoosePublisher × List UInt8) :=
  match self.createGoosePayload dataSet (gooseMaxMessageSize - self.buffer.length) with
  | none => none
  | some payload =>
    let gooseLength := payload.length + 8
    let header := (self.buffer.set self.lengthField (UInt8.ofNat (gooseLength / 256))).set
      (self.lengthField + 1) (UInt8.ofNat (gooseLength % 256))
    some ({ self with sqNum := if self.sqNum + 1 = 0 then 1 else self.sqNum + 1 },
      header ++ payload)

end GoosePublisher

/-! ### The configuration of the publisher program -/

def gooseCommParameters : CommParameters where
  appId := 1000
  dstAddress := [0x01, 0x0c, 0xcd, 0x01, 0x00, 0x01]
  vlanId := 0
  vlanPriority := 4

def goCbRef : List UInt8 := asciiOctets "simpleIOGenericIO/LLN0$GO$gcbAnalogValues"

def dataSetRef : List UInt8 := asciiOctets "simpleIOGenericIO/LLN0$AnalogValues"

/-- The address of an Ethernet interface. -/
abbrev MacAddress := { octets : List UInt8 // octets.length = 6 }

/-- The publisher before the loop of `main`, for an interface with address `srcAddr`. -/
def configuredPublisher (srcAddr : MacAddress) (now : Nat) : GoosePublisher :=
  { GoosePublisher.create gooseCommParameters srcAddr.val now with
    goCBRef := goCbRef
    confRev := 1
    dataSetRef := dataSetRef
    timeAllowedToLive := 500 }

/-- The seven values the two programs exchange: the arguments of `writeSharedDataset`. The
measurements are bit patterns of `float`. -/
structure Dataset where
  tripCommand : Bool
  closeCommand : Bool
  faultType : BitVec 32
  protElement : BitVec 32
  faultCurrent : BitVec 32
  faultVoltage : BitVec 32
  frequency : BitVec 32
  deriving DecidableEq, Repr

namespace Dataset

/-- The list `main` of the publisher builds for one publication. -/
def values (dataset : Dataset) : List MmsValue :=
  [MmsValue.newBoolean dataset.tripCommand, MmsValue.newBoolean dataset.closeCommand,
    MmsValue.newIntegerFromInt32 dataset.faultType,
    MmsValue.newIntegerFromInt32 dataset.protElement,
    MmsValue.newFloat dataset.faultCurrent, MmsValue.newFloat dataset.faultVoltage,
    MmsValue.newFloat dataset.frequency]

/-- The elements these values are sent as. -/
def items (dataset : Dataset) : List (UInt8 × List UInt8) :=
  [(0x83, [if dataset.tripCommand then 1 else 0]), (0x83, [if dataset.closeCommand then 1 else 0]),
    (0x85, BerInteger.int32Octets dataset.faultType),
    (0x85, BerInteger.int32Octets dataset.protElement),
    (0x87, BerEncoder.encodeFloat (.single dataset.faultCurrent)),
    (0x87, BerEncoder.encodeFloat (.single dataset.faultVoltage)),
    (0x87, BerEncoder.encodeFloat (.single dataset.frequency))]

end Dataset

/-- A message of the program: its numbers, the time of its state and its data set. -/
structure Message where
  stNum : BitVec 32
  sqNum : BitVec 32
  time : Nat
  dataset : Dataset
  deriving DecidableEq, Repr

namespace Message

/-- The publisher of the program at the moment it sends the message. -/
def publisher (message : Message) (srcAddr : MacAddress) : GoosePublisher :=
  { configuredPublisher srcAddr message.time with
    stNum := message.stNum
    sqNum := message.sqNum }

/-- The elements of the payload of a message. -/
def items (message : Message) : List (UInt8 × List UInt8) :=
  [(0x80, goCbRef), (0x81, BerEncoder.uint32Octets 500), (0x82, dataSetRef), (0x83, goCbRef),
    (0x84, UtcTime.setUtcTimeMs message.time), (0x85, BerEncoder.uint32Octets message.stNum),
    (0x86, BerEncoder.uint32Octets message.sqNum), (0x87, [0]),
    (0x88, BerEncoder.uint32Octets 1), (0x89, [0]), (0x8a, BerEncoder.uint32Octets 7),
    (0xab, encodeElements message.dataset.items)]

/-- The payload of a message. -/
def payload (message : Message) : List UInt8 :=
  encodeElement 0x61 (encodeElements message.items)

/-- The packet of a message: addresses, the 802.1Q tag, the GOOSE header and the payload. -/
def frame (message : Message) (srcAddr : MacAddress) : List UInt8 :=
  gooseCommParameters.dstAddress ++ srcAddr.val ++ [0x81, 0x00, 0x80, 0x00] ++
    [0x88, 0xb8, 0x03, 0xe8, UInt8.ofNat ((message.payload.length + 8) / 256),
      UInt8.ofNat ((message.payload.length + 8) % 256), 0x00, 0x00, 0x00, 0x00] ++
    message.payload

end Message

/-! ### A publication of the program -/

theorem length_encodeElement {tag : UInt8} {content : List UInt8} (short : content.length < 128) :
    (encodeElement tag content).length = 2 + content.length := by
  rw [encodeElement, BerEncoder.length_encodeLength_of_lt short]
  simp only [List.length_cons, List.length_append, List.length_nil]
  omega

theorem encodeElements_cons (item : UInt8 × List UInt8) (items : List (UInt8 × List UInt8)) :
    encodeElements (item :: items) = encodeElement item.1 item.2 ++ encodeElements items := rfl

theorem encodeElements_nil : encodeElements [] = [] := rfl

theorem length_encodeElements {items : List (UInt8 × List UInt8)}
    (short : ∀ item ∈ items, item.2.length < 128) :
    (encodeElements items).length = (items.map fun item => 2 + item.2.length).sum := by
  induction items with
  | nil => rfl
  | cons item items inductionHypothesis =>
    rw [encodeElements_cons, List.length_append, List.map_cons, List.sum_cons,
      length_encodeElement (short item List.mem_cons_self),
      inductionHypothesis fun other member => short other (List.mem_cons_of_mem _ member)]

theorem encodeUInt32WithTL_eq (tag : UInt8) (value : BitVec 32) :
    BerEncoder.encodeUInt32WithTL tag value = encodeElement tag (BerEncoder.uint32Octets value) := by
  have bound := (BerEncoder.length_uint32Octets value).2
  rw [BerEncoder.encodeUInt32WithTL, encodeElement,
    BerEncoder.length_encodeLength_of_lt (by omega)]
  rfl

theorem determineEncodedStringSize_eq {string : List UInt8} (short : string.length < 128) :
    BerEncoder.determineEncodedStringSize string = 2 + string.length := by
  rw [BerEncoder.determineEncodedStringSize, BerEncoder.determineLengthSize, if_pos short]

namespace Dataset

theorem flatMap_encodeMmsData (dataset : Dataset) :
    dataset.values.flatMap MmsValue.encodeMmsData = encodeElements dataset.items := by
  simp only [values, items, List.flatMap_cons, List.flatMap_nil, encodeElements_cons,
    encodeElements_nil, MmsValue.encodeMmsData_newBoolean,
    MmsValue.encodeMmsData_newIntegerFromInt32, MmsValue.encodeMmsData_newFloat]

theorem length_encodeFloat_single (bits : BitVec 32) :
    (BerEncoder.encodeFloat (.single bits)).length = 5 := by
  rw [BerEncoder.encodeFloat, List.length_cons, Octets.length_ofNat]

theorem length_items (dataset : Dataset) : ∀ item ∈ dataset.items, item.2.length < 128 := by
  have fault := BerInteger.length_int32Octets dataset.faultType
  have element := BerInteger.length_int32Octets dataset.protElement
  simp only [items, List.forall_mem_cons, length_encodeFloat_single, List.length_cons,
    List.length_nil]
  refine ⟨by decide, by decide, by omega, by omega, by decide, by decide, by decide, ?_⟩
  exact List.forall_mem_nil _

/-- Every value but the two integers has one length. -/
theorem length_encodeElements_items (dataset : Dataset) :
    (encodeElements dataset.items).length =
      31 + (BerInteger.int32Octets dataset.faultType).length +
        (BerInteger.int32Octets dataset.protElement).length := by
  rw [length_encodeElements dataset.length_items, items]
  simp only [List.map_cons, List.map_nil, List.sum_cons, List.sum_nil, length_encodeFloat_single,
    List.length_cons, List.length_nil]
  omega

theorem dataSetSize_values (dataset : Dataset) :
    GoosePublisher.dataSetSize dataset.values = (encodeElements dataset.items).length := by
  rw [length_encodeElements_items, GoosePublisher.dataSetSize, values]
  simp only [List.map_cons, List.map_nil, List.sum_cons, List.sum_nil,
    MmsValue.encodedSize_newIntegerFromInt32]
  simp only [MmsValue.newBoolean, MmsValue.newFloat, MmsValue.encodedSize, MmsValue.floatSize]
  omega

theorem length_items_lt (dataset : Dataset) : (encodeElements dataset.items).length < 128 := by
  have fault := BerInteger.length_int32Octets dataset.faultType
  have element := BerInteger.length_int32Octets dataset.protElement
  rw [length_encodeElements_items]
  omega

end Dataset

namespace Message

theorem length_goCbRef : goCbRef.length = 41 := by decide

theorem length_dataSetRef : dataSetRef.length = 35 := by decide

theorem length_items (message : Message) : ∀ item ∈ message.items, item.2.length < 128 := by
  have state := BerEncoder.length_uint32Octets message.stNum
  have sequence := BerEncoder.length_uint32Octets message.sqNum
  have data := message.dataset.length_items_lt
  simp only [items, List.forall_mem_cons, length_goCbRef, length_dataSetRef,
    UtcTime.length_setUtcTimeMs, List.length_cons, List.length_nil]
  refine ⟨by decide, by decide, by decide, by decide, by decide, by omega, by omega, by decide,
    by decide, by decide, by decide, data, ?_⟩
  exact List.forall_mem_nil _

theorem length_encodeElements_items (message : Message) :
    (encodeElements message.items).length =
      155 + (BerEncoder.uint32Octets message.stNum).length +
        (BerEncoder.uint32Octets message.sqNum).length +
        (encodeElements message.dataset.items).length := by
  have live : (BerEncoder.uint32Octets 500).length = 2 := by decide
  have revision : (BerEncoder.uint32Octets 1).length = 1 := by decide
  have count : (BerEncoder.uint32Octets 7).length = 1 := by decide
  rw [length_encodeElements message.length_items, items]
  simp only [List.map_cons, List.map_nil, List.sum_cons, List.sum_nil, length_goCbRef,
    length_dataSetRef, UtcTime.length_setUtcTimeMs, live, revision, count, List.length_cons,
    List.length_nil]
  omega

/-- The PDU always has a length in the form of two octets. -/
theorem length_pdu (message : Message) :
    128 ≤ (encodeElements message.items).length ∧ (encodeElements message.items).length < 256 := by
  have state := BerEncoder.length_uint32Octets message.stNum
  have sequence := BerEncoder.length_uint32Octets message.sqNum
  have fault := BerInteger.length_int32Octets message.dataset.faultType
  have element := BerInteger.length_int32Octets message.dataset.protElement
  rw [length_encodeElements_items, Dataset.length_encodeElements_items]
  omega

theorem length_payload (message : Message) :
    message.payload.length = 3 + (encodeElements message.items).length := by
  have form := message.length_pdu
  rw [payload, encodeElement, BerEncoder.encodeLength, if_neg (by omega), if_pos form.2]
  simp only [List.length_cons, List.length_append, List.length_nil]
  omega

theorem length_payload_le (message : Message) : message.payload.length ≤ 258 := by
  have form := message.length_pdu
  rw [length_payload]
  omega

/-- The first pass of the encoder announces the length of the second. -/
theorem goosePduLength_publisher (message : Message) (srcAddr : MacAddress) :
    (message.publisher srcAddr).goosePduLength message.dataset.values =
      (encodeElements message.items).length := by
  have live : BerEncoder.uint32DetermineEncodedSize 500 = 2 := by decide
  have revision : BerEncoder.uint32DetermineEncodedSize 1 = 1 := by decide
  have count : BerEncoder.uint32DetermineEncodedSize (BitVec.ofNat 32 7) = 1 := by decide
  have entries : message.dataset.values.length = 7 := rfl
  have data := message.dataset.length_items_lt
  rw [length_encodeElements_items, GoosePublisher.goosePduLength, Dataset.dataSetSize_values,
    entries, BerEncoder.determineLengthSize, if_pos data]
  simp only [publisher, configuredPublisher, GoosePublisher.create, Option.getD_none]
  rw [determineEncodedStringSize_eq (by decide), determineEncodedStringSize_eq (by decide),
    length_goCbRef, length_dataSetRef, live, revision, count,
    BerEncoder.uint32DetermineEncodedSize, BerEncoder.uint32DetermineEncodedSize]
  omega

theorem encodePayload_publisher (message : Message) (srcAddr : MacAddress) :
    (message.publisher srcAddr).encodePayload message.dataset.values = message.payload := by
  rw [GoosePublisher.encodePayload, goosePduLength_publisher, Dataset.dataSetSize_values,
    Dataset.flatMap_encodeMmsData]
  simp only [publisher, configuredPublisher, GoosePublisher.create, Option.getD_none,
    encodeUInt32WithTL_eq]
  rw [payload, encodeElement, items]
  simp only [encodeElements_cons, encodeElements_nil, List.append_nil, List.append_assoc,
    BerEncoder.encodeTL, List.cons_append]
  rfl

end Message

/-- A publication of the program never returns `-1`, and sends the frame of its message. -/
theorem publish_eq (message : Message) (srcAddr : MacAddress) :
    (message.publisher srcAddr).publish message.dataset.values =
      some ({ message.publisher srcAddr with
          sqNum := if message.sqNum + 1 = 0 then 1 else message.sqNum + 1 },
        message.frame srcAddr) := by
  match srcAddr with
  | ⟨[first, second, third, fourth, fifth, sixth], _⟩ =>
    have form := message.length_pdu
    rw [GoosePublisher.publish, GoosePublisher.createGoosePayload,
      Message.goosePduLength_publisher, if_neg, Message.encodePayload_publisher]
    · rfl
    · show ¬ 1518 - 26 < _
      rw [BerEncoder.determineLengthSize, if_neg (by omega), if_pos form.2]
      omega

end Substation
