/-
This file embeds the calls of `goose_publisher.c` as a machine: whatever settings an
application makes, in any order and between any publications, the publisher stays
able to encode, and a publication is a frame of elements or is refused for its size.

The main result is that a publication that is sent is as long as its first pass
announced, and so fits the buffer, but for the octet more of every bit string of 127
or 255 octets.
-/

import Substation.Datum
import Substation.Lib.Machine

namespace Substation

/-! ### The calls -/

/-- The calls an application can make on a publisher it has created. -/
inductive PublisherCall
  | setGoID (goID : List UInt8)
  | setGoCbRef (goCbRef : List UInt8)
  | setDataSetRef (dataSetRef : List UInt8)
  | setConfRev (confRev : BitVec 32)
  | setSimulation (simulation : Bool)
  | setStNum (stNum : BitVec 32)
  | setSqNum (sqNum : BitVec 32)
  | setNeedsCommission (ndsCom : Bool)
  | setTimeAllowedToLive (timeAllowedToLive : BitVec 32)
  | increaseStNum (now : Nat)
  | reset
  | publish (dataSet : List MmsValue)

namespace GoosePublisher

/-- `GoosePublisher_createEx`. -/
def createEx (parameters : CommParameters) (srcAddr : MacAddress) (useVlanTag : Bool) (now : Nat) :
    GoosePublisher :=
  { create parameters srcAddr.val now with
    buffer := (prepareGooseBuffer parameters srcAddr.val useVlanTag).1
    lengthField := (prepareGooseBuffer parameters srcAddr.val useVlanTag).2 }

/-- One call, with the packet it sends. -/
def call (self : GoosePublisher) : PublisherCall → GoosePublisher × Option (List UInt8)
  | .setGoID goID => ({ self with goID := some goID }, none)
  | .setGoCbRef goCbRef => ({ self with goCBRef := goCbRef }, none)
  | .setDataSetRef dataSetRef => ({ self with dataSetRef := dataSetRef }, none)
  | .setConfRev confRev => ({ self with confRev := confRev }, none)
  | .setSimulation simulation => ({ self with simulation := simulation }, none)
  | .setStNum stNum => ({ self with stNum := stNum }, none)
  | .setSqNum sqNum => ({ self with sqNum := sqNum }, none)
  | .setNeedsCommission ndsCom => ({ self with needsCommission := ndsCom }, none)
  | .setTimeAllowedToLive timeAllowedToLive =>
    ({ self with timeAllowedToLive := timeAllowedToLive }, none)
  | .increaseStNum now => (self.increaseStNum now, none)
  | .reset => ({ self with sqNum := 0, stNum := 1 }, none)
  | .publish dataSet =>
    match self.publish dataSet with
    | none => (self, none)
    | some (publisher, packet) => (publisher, some packet)

/-- The header and the time stamp are as the publisher was created. -/
structure Prepared (publisher : GoosePublisher) (parameters : CommParameters)
    (srcAddr : MacAddress) (useVlanTag : Bool) : Prop where
  buffer : publisher.buffer = (prepareGooseBuffer parameters srcAddr.val useVlanTag).1
  lengthField : publisher.lengthField = (prepareGooseBuffer parameters srcAddr.val useVlanTag).2
  timestamp : publisher.timestamp.length = 8

variable {parameters : CommParameters} {srcAddr : MacAddress} {useVlanTag : Bool}

theorem prepared_createEx (now : Nat) :
    (createEx parameters srcAddr useVlanTag now).Prepared parameters srcAddr useVlanTag where
  buffer := rfl
  lengthField := rfl
  timestamp := UtcTime.length_setUtcTimeMs now

theorem publish_cases {self next : GoosePublisher} {dataSet : List MmsValue} {packet : List UInt8}
    (sent : self.publish dataSet = some (next, packet)) :
    next = { self with sqNum := if self.sqNum + 1 = 0 then 1 else self.sqNum + 1 } ∧
      1 + BerEncoder.determineLengthSize (self.goosePduLength dataSet) +
        self.goosePduLength dataSet ≤ gooseMaxMessageSize - self.buffer.length ∧
      packet = (self.buffer.set self.lengthField
          (UInt8.ofNat (((self.encodePayload dataSet).length + 8) / 256))).set
            (self.lengthField + 1)
            (UInt8.ofNat (((self.encodePayload dataSet).length + 8) % 256)) ++
          self.encodePayload dataSet := by
  rw [publish, createGoosePayload] at sent
  by_cases tooLong : gooseMaxMessageSize - self.buffer.length <
      1 + BerEncoder.determineLengthSize (self.goosePduLength dataSet) +
        self.goosePduLength dataSet
  · rw [if_pos tooLong] at sent
    cases sent
  · rw [if_neg tooLong, Option.some.injEq, Prod.mk.injEq] at sent
    exact ⟨sent.1.symm, not_lt.mp tooLong, sent.2.symm⟩

theorem Prepared.call {self : GoosePublisher}
    (prepared : self.Prepared parameters srcAddr useVlanTag) (call : PublisherCall) :
    (self.call call).1.Prepared parameters srcAddr useVlanTag := by
  obtain ⟨buffer, lengthField, timestamp⟩ := prepared
  cases call with
  | increaseStNum now => exact ⟨buffer, lengthField, UtcTime.length_setUtcTimeMs now⟩
  | publish dataSet =>
    simp only [GoosePublisher.call]
    cases sent : self.publish dataSet with
    | none => exact ⟨buffer, lengthField, timestamp⟩
    | some pair =>
      obtain ⟨next, packet⟩ := pair
      obtain ⟨rfl, -, -⟩ := publish_cases sent
      exact ⟨buffer, lengthField, timestamp⟩
  | _ => exact ⟨buffer, lengthField, timestamp⟩

/-- After any calls. -/
theorem prepared_run (now : Nat) (calls : List PublisherCall) :
    (Machine.final call (createEx parameters srcAddr useVlanTag now) calls).Prepared parameters
      srcAddr useVlanTag :=
  Machine.final_invariant call (·.Prepared parameters srcAddr useVlanTag)
    (fun _ event prepared => prepared.call event) (prepared_createEx now) calls

/-! ### The two passes over a payload -/

/-- How many octets the first pass over a data set is short. -/
def dataShortfall (dataSet : List MmsValue) : Nat :=
  MmsValue.shortfall.shortfalls (dataSet.map some)

theorem dataSetSize_eq (dataSet : List MmsValue) :
    dataSetSize dataSet = MmsValue.encodedSize.sizes (dataSet.map some) := by
  induction dataSet with
  | nil => rfl
  | cons value dataSet inductionHypothesis =>
    rw [List.map_cons, MmsValue.encodedSize.sizes, ← inductionHypothesis]
    rfl

theorem flatMap_encodeMmsData_eq (dataSet : List MmsValue) :
    dataSet.flatMap MmsValue.encodeMmsData =
      MmsValue.encodeMmsData.encodings (dataSet.map some) := by
  induction dataSet with
  | nil => rfl
  | cons value dataSet inductionHypothesis =>
    rw [List.map_cons, MmsValue.encodeMmsData.encodings, ← inductionHypothesis]
    rfl

theorem data_map_some (dataSet : List MmsValue) :
    MmsValue.datum.data (dataSet.map some) = dataSet.map MmsValue.datum := by
  induction dataSet with
  | nil => rfl
  | cons value dataSet inductionHypothesis =>
    rw [List.map_cons, MmsValue.datum.data, inductionHypothesis]
    rfl

theorem allSound_map_some {dataSet : List MmsValue} (sound : ∀ value ∈ dataSet, value.Sound) :
    MmsValue.Sound.AllSound (dataSet.map some) := by
  induction dataSet with
  | nil => exact trivial
  | cons value dataSet inductionHypothesis =>
    rw [List.forall_mem_cons] at sound
    exact ⟨sound.1, inductionHypothesis sound.2⟩

section Payload

variable {self : GoosePublisher} {dataSet : List MmsValue}

theorem length_encodeStringWithTag (tag : UInt8) {string : List UInt8}
    (bound : string.length < 65535) :
    (BerEncoder.encodeStringWithTag tag string).length =
      BerEncoder.determineEncodedStringSize string :=
  BerEncoder.length_encodeElement_eq tag bound

theorem length_encodeUInt32WithTL (tag : UInt8) (value : BitVec 32) :
    (BerEncoder.encodeUInt32WithTL tag value).length =
      2 + BerEncoder.uint32DetermineEncodedSize value := by
  rw [BerEncoder.encodeUInt32WithTL, BerEncoder.uint32DetermineEncodedSize]
  simp only [List.length_cons]
  omega

theorem length_le_determineEncodedStringSize (string : List UInt8) :
    string.length ≤ BerEncoder.determineEncodedStringSize string :=
  Nat.le_add_left _ _

/-- The second pass over a payload writes what the first announced, and the shortfall of the
data. -/
theorem length_encodePayload (timestamp : self.timestamp.length = 8)
    (sound : ∀ value ∈ dataSet, value.Sound) (bound : self.goosePduLength dataSet < 65535) :
    (self.encodePayload dataSet).length =
      1 + BerEncoder.determineLengthSize (self.goosePduLength dataSet) +
        self.goosePduLength dataSet + dataShortfall dataSet := by
  have reference := length_le_determineEncodedStringSize self.goCBRef
  have dataSetReference := length_le_determineEncodedStringSize self.dataSetRef
  have identifier := length_le_determineEncodedStringSize (self.goID.getD self.goCBRef)
  have announced : self.goosePduLength dataSet < 65535 := bound
  rw [goosePduLength] at announced
  have data : (dataSet.flatMap MmsValue.encodeMmsData).length =
      dataSetSize dataSet + dataShortfall dataSet := by
    rw [flatMap_encodeMmsData_eq, MmsValue.length_encodings _ (allSound_map_some sound)
      (by rw [← dataSetSize_eq]; omega), ← dataSetSize_eq]
    rfl
  have time : (BerEncoder.encodeOctetString 0x84 self.timestamp).length = 2 + 8 := by
    rw [← timestamp]
    exact length_encodeElement (by omega)
  have boolean (tag : UInt8) (value : Bool) : (BerEncoder.encodeBoolean tag value).length = 3 := rfl
  have header (tag : UInt8) {length : Nat} (small : length < 65535) :
      (BerEncoder.encodeTL tag length).length = 1 + BerEncoder.determineLengthSize length := by
    rw [BerEncoder.encodeTL, List.length_cons, BerEncoder.length_encodeLength small, add_comm]
  rw [encodePayload]
  simp only [List.length_append]
  rw [data, time, boolean, boolean, header 0x61 bound, header 0xab (by omega),
    length_encodeStringWithTag 0x80 (by omega), length_encodeStringWithTag 0x82 (by omega),
    length_encodeStringWithTag 0x83 (by omega), length_encodeUInt32WithTL,
    length_encodeUInt32WithTL, length_encodeUInt32WithTL, length_encodeUInt32WithTL,
    length_encodeUInt32WithTL]
  conv_rhs => rw [Nat.add_assoc, Nat.add_assoc]
  generalize outer : BerEncoder.determineLengthSize (self.goosePduLength dataSet) = size
  rw [goosePduLength]
  omega

/-- The elements of the payload. -/
def items (self : GoosePublisher) (dataSet : List MmsValue) : List (UInt8 × List UInt8) :=
  [(0x80, self.goCBRef), (0x81, BerEncoder.uint32Octets self.timeAllowedToLive),
    (0x82, self.dataSetRef), (0x83, self.goID.getD self.goCBRef), (0x84, self.timestamp),
    (0x85, BerEncoder.uint32Octets self.stNum), (0x86, BerEncoder.uint32Octets self.sqNum),
    (0x87, [if self.simulation then 1 else 0]), (0x88, BerEncoder.uint32Octets self.confRev),
    (0x89, [if self.needsCommission then 1 else 0]),
    (0x8a, BerEncoder.uint32Octets (BitVec.ofNat 32 dataSet.length)),
    (0xab, Datum.content.contents (dataSet.map MmsValue.datum))]

end Payload

/-! ### What is sent -/

/-- The octets before the payload. -/
def headerLength (useVlanTag : Bool) : Nat := if useVlanTag then 26 else 22

/-- The payload that the first pass announces. -/
def announcedLength (self : GoosePublisher) (dataSet : List MmsValue) : Nat :=
  1 + BerEncoder.determineLengthSize (self.goosePduLength dataSet) + self.goosePduLength dataSet

theorem length_prepareGooseBuffer (address : parameters.dstAddress.length = 6) :
    (prepareGooseBuffer parameters srcAddr.val useVlanTag).1.length = headerLength useVlanTag := by
  cases useVlanTag <;>
    simp [prepareGooseBuffer, headerLength, address, srcAddr.property]

theorem call_publish_eq_none {self : GoosePublisher}
    (prepared : self.Prepared parameters srcAddr useVlanTag)
    (address : parameters.dstAddress.length = 6) (dataSet : List MmsValue) :
    (self.call (.publish dataSet)).2 = none ↔
      gooseMaxMessageSize < headerLength useVlanTag + self.announcedLength dataSet := by
  have header : self.buffer.length = headerLength useVlanTag := by
    rw [prepared.buffer, length_prepareGooseBuffer address]
  have small : headerLength useVlanTag ≤ 26 := by cases useVlanTag <;> decide
  simp only [call]
  rw [publish, createGoosePayload, header, gooseMaxMessageSize, ← announcedLength]
  by_cases tooLong : 1518 - headerLength useVlanTag < self.announcedLength dataSet
  · rw [if_pos tooLong]
    exact iff_of_true rfl (by omega)
  · rw [if_neg tooLong]
    exact iff_of_false (Option.some_ne_none _) (by omega)

/-- Whatever calls an application makes on a publisher it has created, a publication of sound
values is refused exactly when the first pass finds it too long for the buffer. One that is sent
is longer than the first pass announced by one octet for each bit string of 127 or 255 octets, so
it can leave the buffer only then. Sizes are taken not to reach `2 ^ 32`, where those of the source
would wrap. -/
theorem sent_packet_length (parameters : CommParameters) (srcAddr : MacAddress)
    (useVlanTag : Bool) (address : parameters.dstAddress.length = 6) (now : Nat)
    (calls : List PublisherCall) (dataSet : List MmsValue)
    (sound : ∀ value ∈ dataSet, value.Sound) :
    let publisher := Machine.final call (createEx parameters srcAddr useVlanTag now) calls
    let announced := headerLength useVlanTag + publisher.announcedLength dataSet
    ((publisher.call (.publish dataSet)).2 = none ↔ gooseMaxMessageSize < announced) ∧
      ∀ packet, (publisher.call (.publish dataSet)).2 = some packet →
        packet.length = announced + dataShortfall dataSet ∧
          (gooseMaxMessageSize < packet.length → 0 < dataShortfall dataSet) := by
  intro publisher announced
  have prepared : publisher.Prepared parameters srcAddr useVlanTag := prepared_run now calls
  have refused := call_publish_eq_none prepared address dataSet
  refine ⟨refused, ?_⟩
  intro packet sent
  have fits : announced ≤ gooseMaxMessageSize := by
    rw [← not_lt, ← refused, sent]
    exact Option.some_ne_none _
  have header : publisher.buffer.length = headerLength useVlanTag := by
    rw [prepared.buffer, length_prepareGooseBuffer address]
  have bound : publisher.goosePduLength dataSet < 65535 := by
    have part : publisher.goosePduLength dataSet ≤ announced :=
      (Nat.le_add_left _ _).trans (Nat.le_add_left _ _)
    rw [gooseMaxMessageSize] at fits
    omega
  have length : packet.length = announced + dataShortfall dataSet := by
    simp only [call] at sent
    cases published : publisher.publish dataSet with
    | none =>
      rw [published] at sent
      cases sent
    | some pair =>
      obtain ⟨next, octets⟩ := pair
      rw [published, Option.some.injEq] at sent
      obtain ⟨-, -, frame⟩ := publish_cases published
      rw [← sent, frame, List.length_append, List.length_set, List.length_set, header,
        length_encodePayload prepared.timestamp sound bound, ← announcedLength, ← Nat.add_assoc]
  exact ⟨length, fun tooLong => by omega⟩

/-- A data set that fills the buffer by the count of the first pass, with one bit string of 127
octets, is sent with an octet behind the buffer. -/
theorem sent_packet_leaves_buffer :
    let publisher := Machine.final call (createEx gooseCommParameters ⟨[2, 0, 0, 0, 0, 1], rfl⟩
      true 1000) [.setGoCbRef [0x67], .increaseStNum 2000]
    ∃ packet, (publisher.call (.publish [.bitString 1016 (List.replicate 127 0),
        .octetString 1311 1311 (List.replicate 1311 0)])).2 = some packet ∧
      packet.length = 1519 := by
  intro publisher
  have sound : ∀ value ∈ ([.bitString 1016 (List.replicate 127 0),
      .octetString 1311 1311 (List.replicate 1311 0)] : List MmsValue), value.Sound := by
    rw [List.forall_mem_cons, List.forall_mem_singleton, MmsValue.Sound, MmsValue.Sound,
      List.length_replicate, List.length_replicate]
    exact ⟨⟨by decide, by decide⟩, le_rfl⟩
  obtain ⟨refused, sent⟩ := sent_packet_length gooseCommParameters ⟨[2, 0, 0, 0, 0, 1], rfl⟩ true
    rfl 1000 [.setGoCbRef [0x67], .increaseStNum 2000] _ sound
  cases result : (publisher.call (.publish [.bitString 1016 (List.replicate 127 0),
      .octetString 1311 1311 (List.replicate 1311 0)])).2 with
  | none => exact absurd (refused.mp result) (by decide)
  | some packet => exact ⟨packet, rfl, (sent packet result).1⟩

end GoosePublisher

end Substation
