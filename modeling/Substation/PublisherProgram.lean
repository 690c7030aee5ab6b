/-
This file embeds the loop of `goose_publisher_example.c`: the protection logic on
the seven variables read from the GUI, the detection of a change, and the
publication with its pacing.

`publishData_eq` says what one turn of the loop sends and leaves behind; the results
on whole runs are built on it.
-/

import Substation.Lib.Machine
import Substation.ProtectionGui
import Substation.Publisher

namespace Substation

open Decimal

/-! ### Comparisons of floats -/

/-- A `float` compared with a constant of the program. -/
def floatGreater (bits : BitVec 32) (threshold : ℚ) : Bool :=
  match Ieee.number Ieee.binary32 bits.toNat with
  | .nan => false
  | .infinite negative => !negative
  | .finite value => threshold < value

def floatLess (bits : BitVec 32) (threshold : ℚ) : Bool :=
  match Ieee.number Ieee.binary32 bits.toNat with
  | .nan => false
  | .infinite negative => negative
  | .finite value => value < threshold

/-- The operator `!=` on `float`: a `NaN` differs from itself, the two zeros do not differ. -/
def floatDiffers (first second : BitVec 32) : Bool :=
  Ieee.number Ieee.binary32 first.toNat = .nan ||
    Ieee.number Ieee.binary32 first.toNat ≠ Ieee.number Ieee.binary32 second.toNat

/-! ### Protection logic -/

/-- The variables `protection_trip`, `detected_fault` and `protection_element`. -/
structure Detection where
  protectionTrip : Bool
  detectedFault : BitVec 32
  protectionElement : BitVec 32
  deriving DecidableEq, Repr

namespace Detection

def start : Detection := ⟨false, 0, 50⟩

/-- Overcurrent protection (50/51). -/
def overcurrent (data : GuiData) (self : Detection) : Detection :=
  if floatGreater data.current 3500 then ⟨true, 1, 50⟩ else self

/-- Undervoltage and overvoltage protection (27/59). -/
def voltage (data : GuiData) (self : Detection) : Detection :=
  if floatLess data.voltage 8000 || floatGreater data.voltage 14000 then
    ⟨true, 2, if floatLess data.voltage 8000 then 27 else 59⟩
  else self

/-- Frequency protection (81). -/
def frequency (data : GuiData) (self : Detection) : Detection :=
  if floatLess data.freq 49 || floatGreater data.freq 51 then ⟨true, 3, 81⟩ else self

/-- Manual fault type override. The element is replaced for the types 2 and 3 only. -/
def manual (data : GuiData) (self : Detection) : Detection :=
  if 0 < data.faultType.toInt then
    ⟨true, data.faultType,
      if data.faultType = 2 then 87
      else if data.faultType = 3 then 21
      else self.protectionElement⟩
  else self

def detect (data : GuiData) : Detection :=
  ((start.overcurrent data).voltage data |>.frequency data).manual data

end Detection

/-- The seven variables after the protection logic. -/
def protectionLogic (data : GuiData) : GuiData :=
  let detection := Detection.detect data
  if detection.protectionTrip then
    { data with
      trip := 1
      faultType := detection.detectedFault
      protElem := detection.protectionElement }
  else data

/-- The values the loop hands to `MmsValue_newBoolean` and its siblings. -/
def GuiData.dataset (data : GuiData) : Dataset where
  tripCommand := data.trip ≠ 0
  closeCommand := data.close ≠ 0
  faultType := data.faultType
  protElement := data.protElem
  faultCurrent := data.current
  faultVoltage := data.voltage
  frequency := data.freq

/-! ### The loop -/

/-- The variables that live across turns of the loop; `prev` is the seven `prev_*`. -/
structure PublishLoop where
  publisher : GoosePublisher
  prev : GuiData
  stateChanged : Bool
  firstPublish : Bool

/-- What one turn does: the values it publishes, the numbers and the time stamp of the message,
the packet (`none` when `GoosePublisher_publish` returns `-1`) and the sleep after it. -/
structure Publication where
  dataset : Dataset
  stNum : BitVec 32
  sqNum : BitVec 32
  timestamp : List UInt8
  packet : Option (List UInt8)
  sleep : Nat

namespace PublishLoop

/-- The `float` value `-1`. -/
def minusOne : BitVec 32 := floatOf true 1

def start (srcAddr : MacAddress) (now : Nat) : PublishLoop where
  publisher := configuredPublisher srcAddr now
  prev := ⟨-1, -1, -1, -1, minusOne, minusOne, minusOne⟩
  stateChanged := false
  firstPublish := true

/-- The comparison of the seven variables with the `prev_*`. -/
def changed (data prev : GuiData) : Bool :=
  data.trip ≠ prev.trip || data.close ≠ prev.close || data.faultType ≠ prev.faultType ||
    data.protElem ≠ prev.protElem || floatDiffers data.current prev.current ||
    floatDiffers data.voltage prev.voltage || floatDiffers data.freq prev.freq

/-- The part of a turn after the protection logic: the detection of a change, the publication
and the sleep. -/
def publishData (self : PublishLoop) (data : GuiData) (now : Nat) : PublishLoop × Publication :=
  let change := !self.firstPublish && changed data self.prev
  let stateChanged := change || self.stateChanged
  let publisher := if change then self.publisher.increaseStNum now else self.publisher
  let published := publisher.publish data.dataset.values
  ({ publisher := match published with
      | none => publisher
      | some (publisher, _) => publisher
     prev := data
     stateChanged := false
     firstPublish := false },
   { dataset := data.dataset
     stNum := publisher.stNum
     sqNum := publisher.sqNum
     timestamp := publisher.timestamp
     packet := published.map Prod.snd
     sleep := if stateChanged then 4 else 1000 })

/-- One turn of the loop: the content of the GUI's file when it is opened, and the time. -/
structure Turn where
  file : Option Text
  now : Nat

def iterate (self : PublishLoop) (turn : Turn) : PublishLoop × Publication :=
  self.publishData (protectionLogic (readGuiData turn.file)) turn.now

end PublishLoop

/-! ### What one turn does -/

/-- The next state or sequence number: after the largest comes `1`. -/
def nextNumber (number : BitVec 32) : BitVec 32 := if number + 1 = 0 then 1 else number + 1

namespace PublishLoop

/-- The change the loop detects in a turn. -/
def change (self : PublishLoop) (data : GuiData) : Bool :=
  !self.firstPublish && changed data self.prev

/-- The message of a turn, when the publisher stands before the message `last`. -/
def message (self : PublishLoop) (last : Message) (data : GuiData) (now : Nat) : Message :=
  if self.change data then ⟨nextNumber last.stNum, 0, now, data.dataset⟩
  else ⟨last.stNum, last.sqNum, last.time, data.dataset⟩

theorem message_dataset (self : PublishLoop) (last : Message) (data : GuiData) (now : Nat) :
    (self.message last data now).dataset = data.dataset := by
  unfold message
  split <;> rfl

/-- A turn sends its message and leaves the publisher before the next one. -/
theorem publishData_eq {self : PublishLoop} {srcAddr : MacAddress} {last : Message}
    (configured : self.publisher = last.publisher srcAddr) (data : GuiData) (now : Nat) :
    let sent := self.message last data now
    self.publishData data now =
      ({ publisher := { sent with sqNum := nextNumber sent.sqNum }.publisher srcAddr
         prev := data
         stateChanged := false
         firstPublish := false },
       { dataset := sent.dataset
         stNum := sent.stNum
         sqNum := sent.sqNum
         timestamp := UtcTime.setUtcTimeMs sent.time
         packet := some (sent.frame srcAddr)
         sleep := if self.change data || self.stateChanged then 4 else 1000 }) := by
  intro sent
  have before : (if self.change data then self.publisher.increaseStNum now
      else self.publisher) = sent.publisher srcAddr := by
    show _ = (self.message last data now).publisher srcAddr
    rw [message, configured]
    split <;> rfl
  have values : data.dataset = sent.dataset := (self.message_dataset last data now).symm
  have published := publish_eq sent srcAddr
  rw [publishData, ← change, before, values, published]
  rfl

end PublishLoop

end Substation
