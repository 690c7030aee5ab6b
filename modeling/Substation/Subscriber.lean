/-
This file embeds `goose_subscriber_example.c`: the listener, the line it writes to
the shared file, and the program as a machine that receives one frame after
another, of any octets.

The receive buffer is not cleared between frames, so its state is part of the
program's. The list may be longer than the 1518 octets of the buffer; what is
behind them is the memory there.
-/

import Substation.Lib.Decimal
import Substation.Lib.Machine
import Substation.Publisher
import Substation.ProtectionGui
import Substation.Receiver

namespace Substation

open Decimal

/-! ### The shared line -/

/-- The fields of the line, as the format `"%d,%d,%d,%d,%.1f,%.0f,%.1f"` prints them. -/
def sharedFields (dataset : Dataset) : List Text :=
  [flagText dataset.tripCommand, flagText dataset.closeCommand,
    printInteger dataset.faultType.toInt, printInteger dataset.protElement.toInt,
    printFixed Ieee.binary32 1 dataset.faultCurrent.toNat,
    printFixed Ieee.binary32 0 dataset.faultVoltage.toNat,
    printFixed Ieee.binary32 1 dataset.frequency.toNat]

/-- What `snprintf` leaves in the buffer of 128 characters of `writeSharedDataset`. -/
def sharedLine (dataset : Dataset) : Text :=
  ([','].intercalate (sharedFields dataset)).take 127

/-! ### The listener -/

/-- The frame handed to the program, with what the environment decides while it is handled: the
clock when the payload is parsed and when the listener asks for validity, and what
`MmsValue_getBoolean` finds in the storage of an element that is not a boolean. -/
structure Reception where
  frame : List UInt8
  now : Nat
  later : Nat
  strayTrip : Bool
  strayClose : Bool

/-- What the listener reads in one call; the data set only when its check lets it through. -/
structure ListenerCall where
  stNum : BitVec 32
  sqNum : BitVec 32
  timeAllowedToLive : BitVec 32
  timestamp : Nat
  valid : Bool
  dataset : Option Dataset
  deriving DecidableEq, Repr

/-- The seven values read from the components of a data set. A missing component is read through
`NULL`: there is no result. -/
def readDataset (reception : Reception) : List (Option MmsValue) → Option Dataset
  | some trip :: some close :: some faultType :: some protElement :: some current :: some voltage ::
      some frequency :: _ =>
    some {
      tripCommand := trip.getBoolean reception.strayTrip
      closeCommand := close.getBoolean reception.strayClose
      faultType := faultType.toInt32
      protElement := protElement.toInt32
      faultCurrent := current.toFloat
      faultVoltage := voltage.toFloat
      frequency := frequency.toFloat }
  | _ => none

/-- `gooseListener`; `none` when it reads through `NULL`. -/
def gooseListener (subscriber : GooseSubscriber) (reception : Reception) : Option ListenerCall :=
  let call (dataset : Option Dataset) : ListenerCall :=
    { stNum := subscriber.stNum
      sqNum := subscriber.sqNum
      timeAllowedToLive := subscriber.timeAllowedToLive
      timestamp := UtcTime.getUtcTimeInMs subscriber.timestamp
      valid := subscriber.isValid reception.later
      dataset := dataset }
  match subscriber.dataSetValues with
  | none => some (call none)
  | some components =>
    if 7 ≤ components.length then
      (readDataset reception components).map fun dataset => call (some dataset)
    else some (call none)

/-! ### The program -/

/-- The configuration of `main`. -/
def subscriberParameters : SubscriberParameters where
  goCBRef := asciiOctets "simpleIOGenericIO/LLN0$GO$gcbAnalogValues"
  appId := 1000
  dstMac := [0x01, 0x0c, 0xcd, 0x01, 0x00, 0x01]

def ethBufferLength : Nat := 1518

structure SubscriberProgram where
  buffer : List UInt8
  subscriber : GooseSubscriber
  /-- The content of `/tmp/goose_data.txt`. -/
  file : Option Text

namespace SubscriberProgram

/-- Before the first frame, with a buffer and a file of any content. -/
def start (buffer : List UInt8) (file : Option Text) : SubscriberProgram where
  buffer := buffer
  subscriber := GooseSubscriber.create
  file := file

/-- `Ethernet_receivePacket`: the buffer with a frame copied to its start. -/
def load (self : SubscriberProgram) (frame : List UInt8) : List UInt8 :=
  overwrite self.buffer (frame.take ethBufferLength)

/-- The fields of a frame that is for the subscriber. -/
def fields (self : SubscriberProgram) (frame : List UInt8) : Option PayloadFields :=
  frameFields subscriberParameters (self.load frame) (min frame.length ethBufferLength)

/-- `GooseReceiver_tick` on a frame, with file operations that succeed. There is no result when
the listener reads through `NULL`. -/
def step (self : SubscriberProgram) (reception : Reception) :
    Option (SubscriberProgram × Option ListenerCall) :=
  match self.fields reception.frame with
  | none => some ({ self with buffer := self.load reception.frame }, none)
  | some fields =>
    let subscriber := self.subscriber.accept fields reception.now
    (gooseListener subscriber reception).map fun call =>
      ({ buffer := self.load reception.frame
         subscriber := subscriber
         file := match call.dataset with
          | none => self.file
          | some dataset => some (sharedLine dataset) }, some call)

/-! ### What one step does -/

/-- The data set in force when a frame makes the receiver call the listener. -/
def inForce (self : SubscriberProgram) (reception : Reception) :
    Option (List (Option MmsValue)) :=
  (self.fields reception.frame).bind fun fields =>
    (self.subscriber.accept fields reception.now).dataSetValues

theorem inForce_eq {self : SubscriberProgram} {reception : Reception} {fields : PayloadFields}
    (found : self.fields reception.frame = some fields) :
    self.inForce reception = (self.subscriber.readData fields).1 := by
  rw [inForce, found, Option.bind_some]
  rfl

/-- A call that writes nothing, because the data set does not pass the test, or one that writes
the line of the values read. -/
def Writes (self : SubscriberProgram) (reception : Reception) (next : SubscriberProgram)
    (call : ListenerCall) : Prop :=
  (∀ components, self.inForce reception = some components → components.length < 7) ∧
      call.dataset = none ∧ next.file = self.file ∨
    ∃ components dataset, self.inForce reception = some components ∧ 7 ≤ components.length ∧
      readDataset reception components = some dataset ∧ call.dataset = some dataset ∧
      next.file = some (sharedLine dataset)

/-- A frame is ignored, or the subscriber accepts its fields and the listener is called. -/
theorem step_cases {self next : SubscriberProgram} {reception : Reception}
    {output : Option ListenerCall} (taken : self.step reception = some (next, output)) :
    (self.fields reception.frame = none ∧ output = none ∧ next.subscriber = self.subscriber ∧
        next.file = self.file) ∨
      ∃ fields call, self.fields reception.frame = some fields ∧ output = some call ∧
        next.subscriber = self.subscriber.accept fields reception.now ∧
        call.valid = next.subscriber.isValid reception.later ∧
        self.Writes reception next call := by
  rw [step] at taken
  cases found : self.fields reception.frame with
  | none =>
    rw [found, Option.some.injEq, Prod.mk.injEq] at taken
    obtain ⟨rfl, rfl⟩ := taken
    exact .inl ⟨rfl, rfl, rfl, rfl⟩
  | some fields =>
    simp only [found, Option.map_eq_some_iff, Prod.mk.injEq] at taken
    obtain ⟨call, heard, rfl, rfl⟩ := taken
    have force : self.inForce reception =
        (self.subscriber.accept fields reception.now).dataSetValues := inForce_eq found
    refine .inr ⟨fields, call, rfl, rfl, rfl, ?_⟩
    rw [gooseListener] at heard
    dsimp only at heard
    cases values : (self.subscriber.accept fields reception.now).dataSetValues with
    | none =>
      rw [values, Option.some.injEq] at heard
      subst heard
      refine ⟨rfl, .inl ⟨?_, rfl, rfl⟩⟩
      rw [force, values]
      intro components impossible
      cases impossible
    | some components =>
      simp only [values] at heard
      split_ifs at heard with enough
      · rw [Option.map_eq_some_iff] at heard
        obtain ⟨dataset, read, rfl⟩ := heard
        exact ⟨rfl, .inr ⟨components, dataset, force.trans values, enough, read, rfl, rfl⟩⟩
      · rw [Option.some.injEq] at heard
        subst heard
        refine ⟨rfl, .inl ⟨?_, rfl, rfl⟩⟩
        rw [force, values]
        intro other same
        cases same
        exact not_le.mp enough

/-- A call that finds a data set too small, or all of the first seven components, is made. -/
theorem step_isSome {self : SubscriberProgram} {reception : Reception} {fields : PayloadFields}
    (found : self.fields reception.frame = some fields)
    (readable : ∀ components, self.inForce reception = some components → 7 ≤ components.length →
      (readDataset reception components).isSome) :
    ∃ next call, self.step reception = some (next, some call) := by
  have force : self.inForce reception =
      (self.subscriber.accept fields reception.now).dataSetValues := inForce_eq found
  rw [step, found]
  simp only [gooseListener]
  cases values : (self.subscriber.accept fields reception.now).dataSetValues with
  | none => exact ⟨_, _, rfl⟩
  | some components =>
    simp only
    split_ifs with enough
    · obtain ⟨dataset, read⟩ :=
        Option.isSome_iff_exists.mp (readable components (force.trans values) enough)
      rw [read]
      exact ⟨_, _, rfl⟩
    · exact ⟨_, _, rfl⟩

end SubscriberProgram

/-! ### The fields of a shared line -/

theorem length_flagText (flag : Bool) : (flagText flag).length = 1 := by
  cases flag <;> rfl

theorem length_printInteger_int32 (value : BitVec 32) :
    (printInteger value.toInt).length ≤ 11 := by
  have lower := BitVec.le_toInt value
  have upper := BitVec.toInt_lt (x := value)
  exact length_printInteger_le (by decide) (by omega)

/-- A `float` has at most 39 digits before the point. -/
theorem length_printFixed_float (decimals : Nat) (bits : BitVec 32) :
    (printFixed Ieee.binary32 decimals bits.toNat).length ≤ 41 + decimals := by
  have small : 2 ^ 128 < 10 ^ 39 := by decide
  refine length_printFixed_le (by decide) small fun finite => ?_
  have bound := Ieee.Format.magnitudeValue_lt finite
  refine lt_of_lt_of_le bound ?_
  norm_num [Ieee.binary32, Ieee.Format.minExponent]

/-- The characters of the fields. -/
theorem mem_sharedFields (dataset : Dataset) : ∀ field ∈ sharedFields dataset,
    ∀ character ∈ field,
      character ∈ ['-', '.', 'n', 'a', 'i', 'f'] ∨ character.isDigit = true := by
  have integer (value : ℤ) : ∀ character ∈ printInteger value,
      character ∈ ['-', '.', 'n', 'a', 'i', 'f'] ∨ character.isDigit = true := by
    intro character member
    rcases mem_printInteger member with minus | digit
    · rw [minus]
      decide
    · exact .inr digit
  simp only [sharedFields, flagText, List.forall_mem_cons]
  exact ⟨integer _, integer _, integer _, integer _, fun _ => mem_printFixed,
    fun _ => mem_printFixed, fun _ => mem_printFixed, List.forall_mem_nil _⟩

theorem comma_not_mem_sharedFields (dataset : Dataset) :
    ∀ field ∈ sharedFields dataset, ',' ∉ field := by
  intro field member comma
  exact absurd (mem_sharedFields dataset field member ',' comma) (by decide)

theorem mem_intercalate {separator character : Char} {fields : List Text}
    (member : character ∈ [separator].intercalate fields) :
    character = separator ∨ ∃ field ∈ fields, character ∈ field := by
  induction fields with
  | nil => cases member
  | cons field rest inductionHypothesis =>
    cases rest with
    | nil =>
      rw [List.intercalate_singleton] at member
      exact .inr ⟨field, List.mem_cons_self, member⟩
    | cons next rest =>
      rw [List.intercalate_cons_cons, List.append_assoc, List.mem_append, List.mem_append,
        List.mem_singleton] at member
      rcases member with here | comma | later
      · exact .inr ⟨field, List.mem_cons_self, here⟩
      · exact .inl comma
      · rcases inductionHypothesis later with comma | ⟨other, inRest, here⟩
        · exact .inl comma
        · exact .inr ⟨other, List.mem_cons_of_mem _ inRest, here⟩

/-- The part of the line before its last field. -/
def lineStart (dataset : Dataset) : Text :=
  flagText dataset.tripCommand ++ ',' :: (flagText dataset.closeCommand ++
    ',' :: (printInteger dataset.faultType.toInt ++
    ',' :: (printInteger dataset.protElement.toInt ++
    ',' :: (printFixed Ieee.binary32 1 dataset.faultCurrent.toNat ++
    ',' :: (printFixed Ieee.binary32 0 dataset.faultVoltage.toNat ++ [','])))))

theorem length_lineStart_le (dataset : Dataset) : (lineStart dataset).length ≤ 113 := by
  have fault := length_printInteger_int32 dataset.faultType
  have element := length_printInteger_int32 dataset.protElement
  have current := length_printFixed_float 1 dataset.faultCurrent
  have voltage := length_printFixed_float 0 dataset.faultVoltage
  simp only [lineStart, List.length_append, List.length_cons, List.length_nil, length_flagText]
  omega

/-- The fields as they stand in the file: only the last one can be cut short. -/
def writtenFields (dataset : Dataset) : List Text :=
  (sharedFields dataset).take 6 ++
    [(printFixed Ieee.binary32 1 dataset.frequency.toNat).take
      (127 - (lineStart dataset).length)]

theorem sharedLine_eq (dataset : Dataset) :
    sharedLine dataset = [','].intercalate (writtenFields dataset) := by
  have bound := length_lineStart_le dataset
  have whole (last : Text) : [','].intercalate ((sharedFields dataset).take 6 ++ [last]) =
      lineStart dataset ++ last := by
    simp only [sharedFields, lineStart, List.take_succ_cons, List.take_zero, List.cons_append,
      List.nil_append, List.intercalate_cons_cons, List.intercalate_singleton, List.append_assoc]
  have fields : sharedFields dataset = (sharedFields dataset).take 6 ++
      [printFixed Ieee.binary32 1 dataset.frequency.toNat] := rfl
  rw [sharedLine, writtenFields, whole]
  rw [fields, whole, List.take_append, List.take_of_length_le (by omega)]

theorem splitOn_sharedLine (dataset : Dataset) :
    (sharedLine dataset).splitOn ',' = writtenFields dataset := by
  rw [sharedLine_eq, List.splitOn_intercalate]
  · intro field member
    rcases List.mem_append.mp member with early | last
    · exact comma_not_mem_sharedFields dataset field (List.mem_of_mem_take early)
    · rw [List.mem_singleton.mp last]
      intro comma
      refine comma_not_mem_sharedFields dataset _ ?_ (List.mem_of_mem_take comma)
      simp [sharedFields]
  · simp [writtenFields]

end Substation
