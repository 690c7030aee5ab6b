/-
This file follows a frame of the publisher program through the receiver of the
subscriber program, with the 802.1Q tag or without it. It is found to be for the
subscriber, its fields are those of the message, and its data is read as the
values of the message, whether a data set is created or an earlier frame's is
overwritten.

The main result is that what the listener reads is what the publisher put in, in
every order of delivery, with any losses and repetitions.
-/

import Substation.Decoding
import Substation.PublisherProgram
import Substation.Subscriber

namespace Substation

open Decimal

/-! ### From the payload to its fields -/

theorem decodeUint32_uint32Octets (value : BitVec 32) (tail : List UInt8) :
    BerDecoder.decodeUint32 (BerEncoder.uint32Octets value ++ tail)
      (BerEncoder.uint32Octets value).length 0 = value := by
  rw [BerDecoder.decodeUint32, List.drop_zero, List.take_left, Octets.foldl_shiftAdd_zero,
    BerEncoder.unsigned_uint32Octets, BitVec.ofNat_toNat, BitVec.setWidth_eq]

/-- The fields of a message in a payload with `rest` behind it. -/
structure PayloadFields.Carry (fields : PayloadFields) (message : Message) (rest : List UInt8) :
    Prop where
  timeAllowedToLive : fields.timeAllowedToLive = 500
  stNum : fields.stNum = message.stNum
  sqNum : fields.sqNum = message.sqNum
  confRev : fields.confRev = 1
  simulation : fields.simulation = false
  ndsCom : fields.ndsCom = false
  timestamp : ∃ tail, fields.timestampBuffer = some (UtcTime.setUtcTimeMs message.time ++ tail)
  dataSetBuffer : fields.dataSetBuffer = encodeElements message.dataset.items ++ rest
  dataSetBufferLength : fields.dataSetBufferLength = (encodeElements message.dataset.items).length

theorem readAll_foundElements (message : Message) (rest : List UInt8) :
    ∃ fields, PayloadFields.start.readAll subscriberParameters
        (foundElements message.items rest) = some fields ∧
      fields.matching = true ∧ fields.Carry message rest := by
  have reference : subscriberParameters.goCBRef = goCbRef := rfl
  simp only [Message.items, foundElements]
  simp only [PayloadFields.readAll, PayloadFields.read, reference, List.take_left,
    decodeUint32_uint32Octets, and_self, if_true]
  refine ⟨_, rfl, rfl, ?_⟩
  exact ⟨rfl, rfl, rfl, rfl, rfl, rfl, ⟨_, rfl⟩, rfl, rfl⟩

theorem payloadFields_payload (message : Message) (rest : List UInt8) :
    ∃ fields, payloadFields subscriberParameters (message.payload ++ rest)
        message.payload.length = some fields ∧
      fields.Carry message rest := by
  have form := message.length_pdu
  have size := message.length_payload
  obtain ⟨fields, read, matching, carry⟩ := readAll_foundElements message rest
  obtain ⟨atTag, position, decoded, advance, inside⟩ :=
    @decodeLength_encodeElement (message.payload ++ rest) rest (encodeElements message.items) 0x61
      0 message.payload.length (by omega) rfl (by rw [Message.payload]; omega)
  have walked := @elements_encodeElements (message.payload ++ rest) rest message.items position
    message.payload.length message.payload.length
    (fun item member => (message.length_items item member).trans (by decide)) inside
    (by rw [advance, Message.payload]; omega) (by omega)
  refine ⟨fields, ?_, carry⟩
  rw [payloadFields, if_pos atTag, decoded]
  simp only [walked, read, Option.filter_some, matching, if_true]

/-! ### From the frame to its payload -/

/-- A frame whose 802.1Q tag the network or the driver has taken away. -/
def stripTag (frame : List UInt8) : List UInt8 := frame.take 12 ++ frame.drop 16

/-- A frame as it may arrive. -/
def Arrives (sent received : List UInt8) : Prop := received = sent ∨ received = stripTag sent

theorem uint16_octets {value : Nat} (bound : value < 65536) :
    (UInt8.ofNat (value / 256)).toNat * 0x100 + (UInt8.ofNat (value % 256)).toNat = value := by
  rw [UInt8.toNat_ofNat_of_lt' (by rw [UInt8.size]; omega),
    UInt8.toNat_ofNat_of_lt' (by rw [UInt8.size]; omega)]
  omega

/-- The GOOSE header and the payload, as they stand behind the addresses and the tag. -/
def Message.ending (message : Message) : List UInt8 :=
  [0x88, 0xb8, 0x03, 0xe8, UInt8.ofNat ((message.payload.length + 8) / 256),
    UInt8.ofNat ((message.payload.length + 8) % 256), 0x00, 0x00, 0x00, 0x00] ++ message.payload

theorem octetAt_of_drop_eq {buffer tail : List UInt8} {position : Nat}
    (found : buffer.drop position = tail) (index : Nat) :
    BerDecoder.octetAt buffer (position + index) = BerDecoder.octetAt tail index := by
  rw [← found, BerDecoder.octetAt, BerDecoder.octetAt, List.getD_eq_getElem?_getD,
    List.getD_eq_getElem?_getD, List.getElem?_drop]

theorem gooseApdu_ending {message : Message} {buffer rest : List UInt8} {position : Nat}
    (tag : (if BerDecoder.octetAt buffer 12 = 0x81 ∧ BerDecoder.octetAt buffer 13 = 0x00 then 16
      else 12) = position)
    (address : buffer.take 6 = subscriberParameters.dstMac)
    (found : buffer.drop position = message.ending ++ rest) :
    gooseApdu subscriberParameters buffer (position + 10 + message.payload.length) =
      some (message.payload ++ rest, message.payload.length) := by
  have form := message.length_pdu
  have payloadSize := message.length_payload
  have position_eq : position = 16 ∨ position = 12 := by
    rw [← tag]
    split
    · exact .inl rfl
    · exact .inr rfl
  have octet := octetAt_of_drop_eq found
  have type : BerDecoder.octetAt buffer position = 0x88 ∧
      BerDecoder.octetAt buffer (position + 1) = 0xb8 := ⟨octet 0, octet 1⟩
  have appId : uint16At buffer (position + 2) = 1000 := by
    have high : BerDecoder.octetAt (message.ending ++ rest) 2 = 0x03 := rfl
    have low : BerDecoder.octetAt (message.ending ++ rest) 3 = 0xe8 := rfl
    rw [uint16At, octet 2, Nat.add_assoc, octet 3, high, low]
    rfl
  have length : uint16At buffer (position + 4) = message.payload.length + 8 := by
    rw [uint16At, octet 4, Nat.add_assoc, octet 5]
    exact uint16_octets (by omega)
  have payload : buffer.drop (position + 10) = message.payload ++ rest := by
    rw [← List.drop_drop, found]
    rfl
  rw [gooseApdu]
  simp only [tag, type.1, type.2, appId, length, payload, address]
  rw [if_neg (by omega), if_neg (by omega), if_neg (not_not.mpr rfl), if_neg (not_not.mpr rfl),
    if_neg (by omega), if_neg (by omega), if_pos ⟨rfl, trivial⟩, Nat.add_sub_cancel]

theorem gooseApdu_frame {message : Message} {srcAddr : MacAddress} {received : List UInt8}
    (arrives : Arrives (message.frame srcAddr) received) (rest : List UInt8) :
    gooseApdu subscriberParameters (received ++ rest) received.length =
      some (message.payload ++ rest, message.payload.length) := by
  obtain ⟨addresses, addresses_eq⟩ : ∃ addresses,
      addresses = gooseCommParameters.dstAddress ++ srcAddr.val := ⟨_, rfl⟩
  have size : addresses.length = 12 := by
    rw [addresses_eq, List.length_append, srcAddr.property]
    rfl
  have address (tail : List UInt8) : (addresses ++ tail).take 6 = subscriberParameters.dstMac := by
    rw [addresses_eq, List.append_assoc]
    exact List.take_left' rfl
  have frame : message.frame srcAddr =
      addresses ++ ([0x81, 0x00, 0x80, 0x00] ++ message.ending) := by
    rw [addresses_eq, Message.frame, Message.ending]
    simp only [List.append_assoc]
  have endingLength : message.ending.length = 10 + message.payload.length := by
    rw [Message.ending, List.length_append]
    rfl
  rcases arrives with rfl | rfl
  · have behind : (message.frame srcAddr ++ rest).drop 12 =
        0x81 :: 0x00 :: 0x80 :: 0x00 :: (message.ending ++ rest) := by
      rw [frame, List.append_assoc, List.drop_left' size]
      rfl
    have octet := octetAt_of_drop_eq behind
    have length : (message.frame srcAddr).length = 16 + 10 + message.payload.length := by
      rw [frame, List.length_append, List.length_append, size, endingLength]
      simp only [List.length_cons, List.length_nil]
      omega
    rw [length]
    refine gooseApdu_ending (if_pos ⟨octet 0, octet 1⟩) ?_ ?_
    · rw [frame, List.append_assoc]
      exact address _
    · rw [show 16 = 12 + 4 from rfl, ← List.drop_drop, behind]
      rfl
  · have stripped : stripTag (message.frame srcAddr) = addresses ++ message.ending := by
      rw [stripTag, frame, List.take_left' size, show 16 = 12 + 4 from rfl, ← List.drop_drop,
        List.drop_left' size]
      rfl
    have behind : (stripTag (message.frame srcAddr) ++ rest).drop 12 = message.ending ++ rest := by
      rw [stripped, List.append_assoc, List.drop_left' size]
    have type : BerDecoder.octetAt (stripTag (message.frame srcAddr) ++ rest) 12 = 0x88 :=
      octetAt_of_drop_eq behind 0
    have length : (stripTag (message.frame srcAddr)).length =
        12 + 10 + message.payload.length := by
      rw [stripped, List.length_append, size, endingLength]
      omega
    rw [length]
    refine gooseApdu_ending (if_neg ?_) ?_ behind
    · rw [type]
      exact fun vlan => absurd vlan.1 (by decide)
    · rw [stripped, List.append_assoc]
      exact address _

theorem length_arrived_le {message : Message} {srcAddr : MacAddress} {received : List UInt8}
    (arrives : Arrives (message.frame srcAddr) received) : received.length ≤ ethBufferLength := by
  have payload := message.length_payload_le
  have length : (message.frame srcAddr).length ≤ ethBufferLength := by
    simp only [Message.frame, List.length_append, srcAddr.property, gooseCommParameters,
      ethBufferLength, List.length_cons, List.length_nil]
    omega
  rcases arrives with rfl | rfl
  · exact length
  · rw [stripTag, List.length_append, List.length_take, List.length_drop]
    omega

/-- A frame of the publisher makes the program call its listener, with the fields of its
message. -/
theorem fields_frame (program : SubscriberProgram) {message : Message} {srcAddr : MacAddress}
    {received : List UInt8} (arrives : Arrives (message.frame srcAddr) received) :
    ∃ fields rest, program.fields received = some fields ∧ fields.Carry message rest := by
  have length := length_arrived_le arrives
  have loaded : program.load received = received ++ program.buffer.drop received.length := by
    rw [SubscriberProgram.load, List.take_of_length_le length, overwrite]
  obtain ⟨fields, found, carry⟩ :=
    payloadFields_payload message (program.buffer.drop received.length)
  refine ⟨fields, _, ?_, carry⟩
  rw [SubscriberProgram.fields, loaded, min_eq_left length, frameFields, gooseApdu_frame arrives,
    Option.bind_some]
  exact found

/-! ### From the data to the values -/

namespace Dataset

/-- The values after the data of a message is stored over booleans, integers and floats. -/
def storedOver (dataset : Dataset) (first second : Asn1PrimitiveValue)
    (current voltage frequency : FloatingPoint) : List MmsValue :=
  [.boolean dataset.tripCommand, .boolean dataset.closeCommand,
    .integer (first.store (BerInteger.int32Octets dataset.faultType)),
    .integer (second.store (BerInteger.int32Octets dataset.protElement)),
    .float (current.setFloat dataset.faultCurrent),
    .float (voltage.setFloat dataset.faultVoltage),
    .float (frequency.setFloat dataset.frequency)]

theorem updateElement_boolean (value old : Bool) (tail : List UInt8) :
    updateElement ([if value then 1 else 0] ++ tail) 0x83 1 (.boolean old) =
      (.boolean value, .noError) := by
  rw [updateElement_0x83]
  cases value <;> rfl

theorem updateElement_integer (value : BitVec 32) {storage : Asn1PrimitiveValue}
    (room : 4 ≤ storage.maxSize) (tail : List UInt8) :
    updateElement (BerInteger.int32Octets value ++ tail) 0x85
        (BerInteger.int32Octets value).length (.integer storage) =
      (.integer (storage.store (BerInteger.int32Octets value)), .noError) := by
  have small := (BerInteger.length_int32Octets value).2
  rw [updateElement_0x85, updateInteger, if_pos (small.trans room), List.take_left]

theorem updateElement_float (bits : BitVec 32) (storage : FloatingPoint) (tail : List UInt8) :
    updateElement (BerEncoder.encodeFloat (.single bits) ++ tail) 0x87
        (BerEncoder.encodeFloat (.single bits)).length (.float storage) =
      (.float (storage.setFloat bits), .noError) := by
  rw [updateElement_0x87, updateFloat, length_encodeFloat_single, if_neg (by decide), if_pos rfl,
    BerDecoder.decodeFloat_encodeFloat]

theorem storesAll_items (dataset : Dataset) (trip close : Bool)
    {first second : Asn1PrimitiveValue} (firstRoom : 4 ≤ first.maxSize)
    (secondRoom : 4 ≤ second.maxSize) (current voltage frequency : FloatingPoint) :
    StoresAll dataset.items
      [.boolean trip, .boolean close, .integer first, .integer second, .float current,
        .float voltage, .float frequency]
      (dataset.storedOver first second current voltage frequency) :=
  .cons (updateElement_boolean _ _) (.cons (updateElement_boolean _ _)
    (.cons (updateElement_integer _ firstRoom) (.cons (updateElement_integer _ secondRoom)
    (.cons (updateElement_float _ _) (.cons (updateElement_float _ _)
    (.cons (updateElement_float _ _) .nil))))))

theorem createsAll_items (dataset : Dataset) :
    CreatesAll dataset.items (dataset.storedOver BerInteger.createInt32 BerInteger.createInt32
      (.single 0) (.single 0) (.single 0)) := by
  have boolean (value : Bool) (nested : List UInt8 → Nat → Option (List (Option MmsValue)))
      (tail : List UInt8) :
      createValue nested ⟨0x83, [if value then 1 else 0] ++ tail, 1⟩ =
        some (some (.boolean value)) := by
    cases value <;> rfl
  have integer (value : BitVec 32)
      (nested : List UInt8 → Nat → Option (List (Option MmsValue))) (tail : List UInt8) :
      createValue nested ⟨0x85, BerInteger.int32Octets value ++ tail,
          (BerInteger.int32Octets value).length⟩ =
        some (some (.integer (BerInteger.createInt32.store (BerInteger.int32Octets value)))) := by
    have small := (BerInteger.length_int32Octets value).2
    rw [createValue_0x85, if_neg (by omega), MmsValue.integerStorage, if_pos (by omega),
      List.take_left]
  have float (bits : BitVec 32) (nested : List UInt8 → Nat → Option (List (Option MmsValue)))
      (tail : List UInt8) :
      createValue nested ⟨0x87, BerEncoder.encodeFloat (.single bits) ++ tail,
          (BerEncoder.encodeFloat (.single bits)).length⟩ =
        some (some (.float (.single bits))) := by
    rw [createValue_0x87, length_encodeFloat_single, if_neg (by decide), if_pos rfl,
      BerDecoder.decodeFloat_encodeFloat]
  exact .cons ⟨rfl, boolean _⟩ (.cons ⟨rfl, boolean _⟩ (.cons ⟨rfl, integer _⟩
    (.cons ⟨rfl, integer _⟩ (.cons ⟨rfl, float _⟩ (.cons ⟨rfl, float _⟩
    (.cons ⟨rfl, float _⟩ .nil))))))

end Dataset

section Reading

variable {subscriber : GooseSubscriber} {fields : PayloadFields} {message : Message}
  {rest : List UInt8}

/-- Without a data set in force, one is created with the values of the message. -/
theorem readData_create (carry : fields.Carry message rest)
    (absent : subscriber.retained fields.confRev = none) :
    subscriber.readData fields =
      (some ((message.dataset.storedOver BerInteger.createInt32 BerInteger.createInt32
        (.single 0) (.single 0) (.single 0)).map some), subscriber.parseError, true) := by
  rw [GooseSubscriber.readData, absent]
  simp only [carry.dataSetBuffer, carry.dataSetBufferLength]
  rw [createDataSet_encodeElements message.dataset.createsAll_items
    (fun item member => (message.dataset.length_items item member).trans (by decide))]

/-- A data set in force that begins with two booleans, two integers and three floats is
overwritten with the values of the message. -/
theorem readData_store (carry : fields.Carry message rest) {trip close : Bool}
    {first second : Asn1PrimitiveValue} (firstRoom : 4 ≤ first.maxSize)
    (secondRoom : 4 ≤ second.maxSize) {current voltage frequency : FloatingPoint}
    {extra : List (Option MmsValue)}
    (inForce : subscriber.retained fields.confRev =
      some (([.boolean trip, .boolean close, .integer first, .integer second, .float current,
        .float voltage, .float frequency] : List MmsValue).map some ++ extra)) :
    (subscriber.readData fields).1 =
      some ((message.dataset.storedOver first second current voltage frequency).map some ++
        extra) := by
  have parsed := parseElements_storesAll
    (message.dataset.storesAll_items trip close firstRoom secondRoom current voltage frequency)
    (fun item member => (message.dataset.length_items item member).trans (by decide))
    (List.drop_zero (l := encodeElements message.dataset.items ++ rest)) extra
  rw [Nat.zero_add] at parsed
  rw [GooseSubscriber.readData, inForce]
  simp only [carry.dataSetBuffer, carry.dataSetBufferLength, parseAllData, parsed]

theorem readDataset_storedOver (reception : Reception) (dataset : Dataset)
    (first second : Asn1PrimitiveValue) (current voltage frequency : FloatingPoint)
    (extra : List (Option MmsValue)) :
    readDataset reception
        ((dataset.storedOver first second current voltage frequency).map some ++ extra) =
      some { dataset with
        faultCurrent := MmsValue.toFloat (.float (current.setFloat dataset.faultCurrent))
        faultVoltage := MmsValue.toFloat (.float (voltage.setFloat dataset.faultVoltage))
        frequency := MmsValue.toFloat (.float (frequency.setFloat dataset.frequency)) } := by
  have fault := BerInteger.toInt32_store_int32Octets first dataset.faultType
  have element := BerInteger.toInt32_store_int32Octets second dataset.protElement
  simp only [Dataset.storedOver, List.map_cons, List.cons_append, readDataset,
    MmsValue.getBoolean, MmsValue.toInt32, fault, element]

end Reading

/-! ### What the listener reads -/

/-- The data set in force is none, or one that messages of the program have filled. -/
def GooseSubscriber.Expecting (subscriber : GooseSubscriber) : Prop :=
  subscriber.dataSetValues = none ∨
    subscriber.confRev = 1 ∧ ∃ (dataset : Dataset) (first second : Asn1PrimitiveValue),
      4 ≤ first.maxSize ∧ 4 ≤ second.maxSize ∧
      subscriber.dataSetValues =
        some ((dataset.storedOver first second (.single 0) (.single 0) (.single 0)).map some)

/-- A frame of the publisher leaves a data set filled with the values of its message. -/
theorem dataSetValues_accept {subscriber : GooseSubscriber} (expecting : subscriber.Expecting)
    {fields : PayloadFields} {message : Message} {rest : List UInt8}
    (carry : fields.Carry message rest) (now : Nat) :
    ∃ first second : Asn1PrimitiveValue, 4 ≤ first.maxSize ∧ 4 ≤ second.maxSize ∧
      (subscriber.accept fields now).dataSetValues = some
        ((message.dataset.storedOver first second (.single 0) (.single 0) (.single 0)).map
          some) := by
  rcases expecting with absent | ⟨revision, dataset, first, second, firstRoom, secondRoom, filled⟩
  · have dropped : subscriber.retained fields.confRev = none := by
      rw [GooseSubscriber.retained, absent, ite_self]
    refine ⟨BerInteger.createInt32, BerInteger.createInt32, by decide, by decide, ?_⟩
    rw [GooseSubscriber.accept, readData_create carry dropped]
  · have inForce : subscriber.retained fields.confRev =
        some (([.boolean dataset.tripCommand, .boolean dataset.closeCommand,
          .integer (first.store (BerInteger.int32Octets dataset.faultType)),
          .integer (second.store (BerInteger.int32Octets dataset.protElement)),
          .float (.single dataset.faultCurrent), .float (.single dataset.faultVoltage),
          .float (.single dataset.frequency)] : List MmsValue).map some ++ []) := by
      rw [GooseSubscriber.retained, revision, carry.confRev, if_pos rfl, filled]
      rfl
    have stored := readData_store carry (show 4 ≤ (first.store _).maxSize from firstRoom)
      (show 4 ≤ (second.store _).maxSize from secondRoom) inForce
    rw [List.append_nil] at stored
    exact ⟨first.store (BerInteger.int32Octets dataset.faultType),
      second.store (BerInteger.int32Octets dataset.protElement), firstRoom, secondRoom, stored⟩

/-- What a listener reads of a message. -/
structure ListenerCall.Reads (call : ListenerCall) (message : Message) : Prop where
  dataset : call.dataset = some message.dataset
  stNum : call.stNum = message.stNum
  sqNum : call.sqNum = message.sqNum
  timeAllowedToLive : call.timeAllowedToLive = 500
  timestamp : message.time / 1000 < 2 ^ 32 → call.timestamp = message.time

/-- The step of the program on a frame of the publisher. -/
theorem step_frame {program : SubscriberProgram} (expecting : program.subscriber.Expecting)
    {message : Message} {srcAddr : MacAddress} {reception : Reception}
    (arrives : Arrives (message.frame srcAddr) reception.frame) :
    ∃ after call, program.step reception = some (after, some call) ∧
      after.subscriber.Expecting ∧ call.Reads message ∧
      after.file = some (sharedLine message.dataset) := by
  obtain ⟨fields, rest, found, carry⟩ := fields_frame program arrives
  obtain ⟨tail, timestamp⟩ := carry.timestamp
  obtain ⟨first, second, firstRoom, secondRoom, filled⟩ :=
    dataSetValues_accept expecting carry reception.now
  have extracted : readDataset reception ((message.dataset.storedOver first second
      (.single 0) (.single 0) (.single 0)).map some) = some message.dataset := by
    have read := readDataset_storedOver reception message.dataset first second (.single 0)
      (.single 0) (.single 0) []
    rw [List.append_nil] at read
    exact read
  have heard : ∃ call, gooseListener (program.subscriber.accept fields reception.now) reception =
      some call ∧ call.Reads message := by
    refine ⟨_, by rw [gooseListener, filled]; simp only [extracted]; rfl, rfl, carry.stNum,
      carry.sqNum, carry.timeAllowedToLive, fun bound => ?_⟩
    show UtcTime.getUtcTimeInMs (GooseSubscriber.accept _ _ _).timestamp = message.time
    rw [GooseSubscriber.accept, timestamp]
    simp only
    rw [UtcTime.setUtcTimeByBuffer_append (UtcTime.length_setUtcTimeMs _),
      UtcTime.getUtcTimeInMs_setUtcTimeMs bound]
  obtain ⟨call, listened, reads⟩ := heard
  refine ⟨_, call, by rw [SubscriberProgram.step, found]; simp only [listened]; rfl, ?_, reads, ?_⟩
  · exact .inr ⟨carry.confRev, message.dataset, first, second, firstRoom, secondRoom, filled⟩
  · simp only [reads.dataset]

/-! ### Every delivery of every run -/

/-- The turns of the publisher loop on any seven variables, at any time. -/
def publishTurn (loop : PublishLoop) (turn : GuiData × Nat) : PublishLoop × Publication :=
  loop.publishData turn.1 turn.2

/-- A publication with its time in milliseconds. -/
structure Publication.At (publication : Publication) (time : Nat) : Prop where
  bound : time / 1000 < 2 ^ 32
  timestamp : publication.timestamp = UtcTime.setUtcTimeMs time

/-- Every publication of a run of the loop sends the frame of a message. -/
theorem sent_outputs {srcAddr : MacAddress} {loop : PublishLoop} {last : Message}
    (configured : loop.publisher = last.publisher srcAddr) (start : last.time / 1000 < 2 ^ 32)
    {turns : List (GuiData × Nat)} (times : ∀ turn ∈ turns, turn.2 / 1000 < 2 ^ 32) :
    ∀ publication ∈ Machine.outputs publishTurn loop turns, ∃ message : Message,
      publication.dataset = message.dataset ∧ publication.stNum = message.stNum ∧
        publication.sqNum = message.sqNum ∧ publication.At message.time ∧
        publication.packet = some (message.frame srcAddr) := by
  induction turns generalizing loop last with
  | nil => exact List.forall_mem_nil _
  | cons turn turns inductionHypothesis =>
    rw [List.forall_mem_cons] at times
    have sentTime : (loop.message last turn.1 turn.2).time / 1000 < 2 ^ 32 := by
      unfold PublishLoop.message
      split
      · exact times.1
      · exact start
    rw [Machine.outputs, publishTurn, PublishLoop.publishData_eq configured, List.forall_mem_cons]
    exact ⟨⟨_, rfl, rfl, rfl, ⟨sentTime, rfl⟩, rfl⟩, inductionHypothesis rfl sentTime times.2⟩

/-- A reception of the packet of a publication, with the tag or without it. -/
def Publication.DeliveredAs (publication : Publication) (reception : Reception) : Prop :=
  ∃ packet, publication.packet = some packet ∧ Arrives packet reception.frame

/-- Deliveries of frames of the publisher never stop the program, and leave it expecting the
next one. -/
theorem expecting_reach {program : SubscriberProgram} (expecting : program.subscriber.Expecting)
    {history : List Reception}
    (genuine : ∀ reception ∈ history, ∃ message : Message, ∃ srcAddr : MacAddress,
      Arrives (message.frame srcAddr) reception.frame) :
    ∃ last, Machine.reach SubscriberProgram.step program history = some last ∧
      last.subscriber.Expecting := by
  induction history generalizing program with
  | nil => exact ⟨program, rfl, expecting⟩
  | cons reception history inductionHypothesis =>
    rw [List.forall_mem_cons] at genuine
    obtain ⟨⟨message, srcAddr, arrives⟩, later⟩ := genuine
    obtain ⟨after, call, stepped, ready, -, -⟩ := step_frame expecting arrives
    rw [Machine.reach, stepped]
    exact inductionHypothesis ready later

/-- For every run of the publisher loop, from any numbers and on any values, nothing fails to be
published; and for every delivery of its packets in any order, with losses and repetitions, the
listener reads of each packet exactly the values, the numbers, the time allowed to live and the
time stamp it was sent with. -/
theorem listener_reads_what_was_published (srcAddr : MacAddress) (loop : PublishLoop)
    (first : Message) (configured : loop.publisher = first.publisher srcAddr)
    (start : first.time / 1000 < 2 ^ 32) (turns : List (GuiData × Nat))
    (times : ∀ turn ∈ turns, turn.2 / 1000 < 2 ^ 32) :
    let sent := Machine.outputs publishTurn loop turns
    (∀ publication ∈ sent, publication.packet ≠ none) ∧
      ∀ (buffer : List UInt8) (file : Option Text) (history : List Reception) (next : Reception),
        (∀ reception ∈ history, ∃ publication ∈ sent, publication.DeliveredAs reception) →
        ∀ publication ∈ sent, publication.DeliveredAs next →
          ∃ program, Machine.reach SubscriberProgram.step (.start buffer file) history =
              some program ∧
            ∃ after call, program.step next = some (after, some call) ∧
              call.dataset = some publication.dataset ∧ call.stNum = publication.stNum ∧
              call.sqNum = publication.sqNum ∧ call.timeAllowedToLive = 500 ∧
              publication.At call.timestamp := by
  intro sent
  have messages := sent_outputs configured start times
  have genuine {publication : Publication} (member : publication ∈ sent) {reception : Reception}
      (delivered : publication.DeliveredAs reception) :
      ∃ message : Message, publication.dataset = message.dataset ∧
        publication.stNum = message.stNum ∧ publication.sqNum = message.sqNum ∧
        publication.At message.time ∧ Arrives (message.frame srcAddr) reception.frame := by
    obtain ⟨message, dataset, stNum, sqNum, time, packet⟩ := messages publication member
    obtain ⟨octets, packet', arrives⟩ := delivered
    rw [packet, Option.some.injEq] at packet'
    exact ⟨message, dataset, stNum, sqNum, time, packet' ▸ arrives⟩
  refine ⟨?_, ?_⟩
  · intro publication member
    obtain ⟨message, -, -, -, -, packet⟩ := messages publication member
    rw [packet]
    exact Option.some_ne_none _
  · intro buffer file history next delivered publication member nextDelivered
    have empty : (SubscriberProgram.start buffer file).subscriber.Expecting := .inl rfl
    obtain ⟨program, reached, expecting⟩ := @expecting_reach (.start buffer file) empty history (by
      intro reception inHistory
      obtain ⟨earlier, earlierMember, earlierDelivered⟩ := delivered reception inHistory
      obtain ⟨message, -, -, -, -, arrives⟩ := genuine earlierMember earlierDelivered
      exact ⟨message, srcAddr, arrives⟩)
    obtain ⟨message, dataset, stNum, sqNum, time, arrives⟩ := genuine member nextDelivered
    obtain ⟨after, call, stepped, -, reads, -⟩ := step_frame expecting arrives
    refine ⟨program, reached, after, call, stepped, ?_, ?_, ?_, reads.timeAllowedToLive, ?_⟩
    · rw [reads.dataset, dataset]
    · rw [reads.stNum, stNum]
    · rw [reads.sqNum, sqNum]
    · rw [reads.timestamp time.bound]
      exact time

/-- The first publication of the program when the GUI has written nothing, received twice, the
second time without its tag. -/
theorem listener_reads_first_publication :
    let srcAddr : MacAddress := ⟨[2, 0, 0, 0, 0, 1], rfl⟩
    let publication := (publishTurn (.start srcAddr 1000) (readGuiData none, 2000)).2
    let packet := Message.frame ⟨1, 0, 1000, (readGuiData none).dataset⟩ srcAddr
    ∃ program, Machine.reach SubscriberProgram.step (.start [] none)
        [⟨packet, 3000, 3000, false, false⟩] = some program ∧
      ∃ after call, program.step ⟨stripTag packet, 3001, 3001, false, false⟩ =
          some (after, some call) ∧
        call.dataset = some publication.dataset ∧ call.stNum = publication.stNum ∧
        call.sqNum = publication.sqNum ∧ call.timeAllowedToLive = 500 ∧
        publication.At call.timestamp := by
  intro srcAddr publication packet
  have configured : (PublishLoop.start srcAddr 1000).publisher =
      Message.publisher ⟨1, 0, 1000, (readGuiData none).dataset⟩ srcAddr := rfl
  have sent : publication.packet = some packet :=
    congrArg (fun turn => turn.2.packet)
      (PublishLoop.publishData_eq configured (readGuiData none) 2000)
  have times : ∀ turn ∈ [(readGuiData none, 2000)], turn.2 / 1000 < 2 ^ 32 := by
    rintro turn member
    rw [List.mem_singleton.mp member]
    norm_num
  have member : publication ∈ Machine.outputs publishTurn (.start srcAddr 1000)
      [(readGuiData none, 2000)] := List.mem_singleton.mpr rfl
  refine (listener_reads_what_was_published srcAddr _ _ configured (by norm_num) _ times).2 [] none
    _ _ ?_ publication member ⟨packet, sent, .inr rfl⟩
  intro reception inHistory
  rw [List.mem_singleton.mp inHistory]
  exact ⟨publication, member, packet, sent, .inl rfl⟩

end Substation
