/-
This file follows a packet of any publisher of `goose_publisher.c` through the
receiver: whatever the addresses, the tag, the references and the settings are, the
fields a subscriber for it reads are those the publisher had, and its data becomes
the data of the subscriber.

The main result is about whole runs: packets may be lost, repeated and reordered, and
the data set may change with the configuration revision; after each packet the
subscriber holds the data of that packet.
-/

import Substation.RoundTrip

namespace Substation

/-! ### The packet as it arrives -/

/-- The 802.1Q tag of a publisher. -/
def priorityTag (parameters : CommParameters) : List UInt8 :=
  [0x81, 0x00, (parameters.vlanPriority <<< 5) + UInt8.ofNat (parameters.vlanId / 256),
    UInt8.ofNat (parameters.vlanId % 256)]

namespace GoosePublisher

variable {parameters : CommParameters} {srcAddr : MacAddress} {useVlanTag : Bool}

end GoosePublisher

/-- The fields of a payload with `rest` behind it are the settings of a publisher. -/
structure PayloadFields.Match (fields : PayloadFields) (publisher : GoosePublisher)
    (dataSet : List MmsValue) (rest : List UInt8) : Prop where
  timeAllowedToLive : fields.timeAllowedToLive = publisher.timeAllowedToLive
  stNum : fields.stNum = publisher.stNum
  sqNum : fields.sqNum = publisher.sqNum
  confRev : fields.confRev = publisher.confRev
  simulation : fields.simulation = publisher.simulation
  ndsCom : fields.ndsCom = publisher.needsCommission
  timestamp : ∃ tail, fields.timestampBuffer = some (publisher.timestamp ++ tail)
  dataSetBuffer : fields.dataSetBuffer =
    Datum.content.contents (dataSet.map MmsValue.datum) ++ rest
  dataSetBufferLength : fields.dataSetBufferLength =
    (Datum.content.contents (dataSet.map MmsValue.datum)).length

section Fields

variable {publisher : GoosePublisher} {dataSet : List MmsValue}
  {subscription : SubscriberParameters}

end Fields

/-! ### The runs of a publisher and of a receiver -/

/-- A message: the publisher when it was published, and its data set. -/
structure Sending where
  publisher : GoosePublisher
  dataSet : List MmsValue

namespace Sending

/-- The data of a message. -/
def data (sending : Sending) : List Datum := sending.dataSet.map MmsValue.datum

/-- The message is published in a run of calls, and sent as a packet. -/
def SentIn (sending : Sending) (first : GoosePublisher) (calls : List PublisherCall)
    (packet : List UInt8) : Prop :=
  ∃ index, calls[index]? = some (.publish sending.dataSet) ∧
    sending.publisher = Machine.final GoosePublisher.call first (calls.take index) ∧
    (sending.publisher.call (.publish sending.dataSet)).2 = some packet

end Sending

/-- Values that the encoder writes as it announces them. -/
def Encodable (dataSet : List MmsValue) : Prop :=
  (∀ value ∈ dataSet, value.Sound) ∧ GoosePublisher.dataShortfall dataSet = 0

/-- A receiver with one subscriber, as `GooseReceiver_tick` changes it. -/
structure SoleReceiver where
  buffer : List UInt8
  subscriber : GooseSubscriber

namespace SoleReceiver

def start (buffer : List UInt8) : SoleReceiver := ⟨buffer, GooseSubscriber.create⟩

/-- A frame is received at some time; the output says whether the listener is called. -/
def tick (subscription : SubscriberParameters) (self : SoleReceiver)
    (arrival : List UInt8 × Nat) : SoleReceiver × Bool :=
  let buffer := overwrite self.buffer (arrival.1.take ethBufferLength)
  match frameFields subscription buffer (min arrival.1.length ethBufferLength) with
  | none => ({ self with buffer := buffer }, false)
  | some fields => (⟨buffer, self.subscriber.accept fields arrival.2⟩, true)

end SoleReceiver

/-- A packet is delivered as it was sent, or without its tag. -/
def DeliveredAs (useVlanTag : Bool) (packet received : List UInt8) : Prop :=
  received = packet ∨ useVlanTag = true ∧ received = stripTag packet

section Run

variable {parameters : CommParameters} {srcAddr : MacAddress} {useVlanTag : Bool}
  {publisher : GoosePublisher} {dataSet : List MmsValue} {packet received : List UInt8}
  {subscription : SubscriberParameters}

/-- The subscriber after a message. -/
structure GooseSubscriber.Shows (subscriber : GooseSubscriber) (sending : Sending) : Prop where
  timeAllowedToLive : subscriber.timeAllowedToLive = sending.publisher.timeAllowedToLive
  stNum : subscriber.stNum = sending.publisher.stNum
  sqNum : subscriber.sqNum = sending.publisher.sqNum
  confRev : subscriber.confRev = sending.publisher.confRev
  simulation : subscriber.simulation = sending.publisher.simulation
  ndsCom : subscriber.ndsCom = sending.publisher.needsCommission
  timestamp : subscriber.timestamp = sending.publisher.timestamp
  parseError : subscriber.parseError = .noError
  data : ∃ components, subscriber.dataSetValues = some components ∧
    MmsValue.datum.data components = sending.data

/-- The storage of a subscriber takes the data of every message with its revision. -/
structure GooseSubscriber.Ready (subscriber : GooseSubscriber) (Possible : Sending → Prop) :
    Prop where
  parseError : subscriber.parseError = .noError
  storage : ∀ components, subscriber.dataSetValues = some components → ∀ sending,
    Possible sending → sending.publisher.confRev = subscriber.confRev →
    MmsValue.Fits.AllFit components sending.data

theorem sendable_data {sending : Sending} (encodable : Encodable sending.dataSet) :
    Datum.Sendable.AllSendable sending.data := by
  rw [Sending.data, ← GoosePublisher.data_map_some]
  exact MmsValue.Sound.allSendable _ (GoosePublisher.allSound_map_some encodable.1)

/-- The data of a message is created or stored; what takes the next data is what took this one. -/
theorem readData_match {subscriber : GooseSubscriber} {sending : Sending} {fields : PayloadFields}
    {rest : List UInt8} (parseError : subscriber.parseError = .noError)
    (fits : ∀ components, subscriber.retained fields.confRev = some components →
      MmsValue.Fits.AllFit components sending.data)
    (encodable : Encodable sending.dataSet)
    (bound : (Datum.content.contents sending.data).length ≤ 65535)
    (carry : fields.Match sending.publisher sending.dataSet rest) :
    ∃ components, subscriber.readData fields = (some components, .noError, true) ∧
      MmsValue.datum.data components = sending.data ∧
      ∀ items, MmsValue.Fits.AllFit components items ↔
        MmsValue.Fits.AllFit ((subscriber.retained fields.confRev).getD
          (Datum.created.createdAll sending.data)) items := by
  have sendable := sendable_data encodable
  rw [GooseSubscriber.readData]
  cases retained : subscriber.retained fields.confRev with
  | none =>
    refine ⟨Datum.created.createdAll sending.data, ?_, Datum.data_createdAll _ sendable,
      fun items => Iff.rfl⟩
    simp only
    rw [carry.dataSetBuffer, carry.dataSetBufferLength, parseError, ← Sending.data,
      Datum.createDataSet_contents _ sendable bound]
  | some components =>
    obtain ⟨values, results, rfl, all, meaning, keeps⟩ := Datum.storesAll_elements sending.data
      components (fits components retained) sendable bound
    refine ⟨results.map some, ?_, meaning, keeps⟩
    simp only
    rw [carry.dataSetBuffer, carry.dataSetBufferLength, parseAllData, ← Sending.data,
      Datum.parseElements_contents all bound]
    rfl

/-- A message that is read is shown. -/
theorem accept_shows {subscriber : GooseSubscriber} {sending : Sending} {fields : PayloadFields}
    {rest : List UInt8} (parseError : subscriber.parseError = .noError)
    (fits : ∀ components, subscriber.retained fields.confRev = some components →
      MmsValue.Fits.AllFit components sending.data)
    (encodable : Encodable sending.dataSet) (timestamp : sending.publisher.timestamp.length = 8)
    (bound : (Datum.content.contents sending.data).length ≤ 65535)
    (carry : fields.Match sending.publisher sending.dataSet rest) (now : Nat) :
    (subscriber.accept fields now).Shows sending ∧
      ∃ components, (subscriber.accept fields now).dataSetValues = some components ∧
        ∀ items, MmsValue.Fits.AllFit components items ↔
          MmsValue.Fits.AllFit ((subscriber.retained fields.confRev).getD
            (Datum.created.createdAll sending.data)) items := by
  obtain ⟨components, read, meaning, same⟩ :=
    readData_match parseError fits encodable bound carry
  have time : (subscriber.accept fields now).timestamp = sending.publisher.timestamp := by
    obtain ⟨tail, found⟩ := carry.timestamp
    rw [GooseSubscriber.accept]
    simp only [found]
    exact UtcTime.setUtcTimeByBuffer_append timestamp tail
  have values : (subscriber.accept fields now).dataSetValues = some components := by
    rw [GooseSubscriber.accept, read]
  have error : (subscriber.accept fields now).parseError = .noError := by
    rw [GooseSubscriber.accept, read]
  exact ⟨⟨carry.timeAllowedToLive, carry.stNum, carry.sqNum, carry.confRev, carry.simulation,
    carry.ndsCom, time, error, components, values, meaning⟩, components, values, same⟩

variable {first : GoosePublisher} {calls : List PublisherCall}

end Run

namespace Sending

/-- A frame that delivers some message of a run. -/
def Delivers (first : GoosePublisher) (calls : List PublisherCall) (useVlanTag : Bool)
    (frame : List UInt8) (sending : Sending) : Prop :=
  ∃ packet, sending.SentIn first calls packet ∧ DeliveredAs useVlanTag packet frame

end Sending

end Substation
