/-
This file is about the subscriber program after any frames, when a frame of the
publisher arrives. The data set is created from the first message that matches and
kept until `confRev` changes, so a foreign message decides what later ones are
decoded into.

The main result says exactly when every frame of the publisher still reaches the
shared file: when no data set is in force for the revision of the publisher, or
one that begins with the types of its messages.
-/

import Substation.Delivery
import Substation.ListenerCheck

namespace Substation

open Decimal

/-! ### Data sets that take a message of the publisher -/

/-- The types of the values the publisher sends. -/
def commandTypes : List (Option MmsType) :=
  [some .boolean, some .boolean, some .integer, some .integer, some .float, some .float,
    some .float]

/-- The data set in force for a message of revision 1, if there is one, begins with components of
these types. -/
def GooseSubscriber.Receptive (subscriber : GooseSubscriber) : Prop :=
  ∀ components, subscriber.retained 1 = some components →
    (typesOf components).take 7 = commandTypes

/-- Messages of the publisher leave a data set that takes the next one. -/
theorem GooseSubscriber.Expecting.receptive {subscriber : GooseSubscriber}
    (expecting : subscriber.Expecting) : subscriber.Receptive := by
  intro components kept
  rw [GooseSubscriber.retained, Option.ite_none_right_eq_some] at kept
  rcases expecting with absent | ⟨-, dataset, first, second, -, -, filled⟩
  · rw [absent] at kept
    cases kept.2
  · rw [filled, Option.some.injEq] at kept
    rw [← kept.2]
    rfl

theorem typesOf_take_succ {components : List (Option MmsValue)} {type : MmsType} {count : Nat}
    {types : List (Option MmsType)}
    (begins : (typesOf components).take (count + 1) = some type :: types) :
    ∃ value others, components = some value :: others ∧ value.getType = type ∧
      (typesOf others).take count = types := by
  cases components with
  | nil => cases begins
  | cons component others =>
    rw [typesOf, List.map_cons, List.take_succ_cons, List.cons.injEq] at begins
    obtain ⟨first, rest⟩ := begins
    rw [Option.map_eq_some_iff] at first
    obtain ⟨value, rfl, same⟩ := first
    exact ⟨value, others, rfl, same, rest⟩

theorem getType_eq_boolean {value : MmsValue} (type : value.getType = .boolean) :
    ∃ flag, value = .boolean flag := by
  cases value with
  | boolean flag => exact ⟨flag, rfl⟩
  | _ => cases type

theorem getType_eq_integer {value : MmsValue} (type : value.getType = .integer) :
    ∃ storage, value = .integer storage := by
  cases value with
  | integer storage => exact ⟨storage, rfl⟩
  | _ => cases type

theorem getType_eq_float {value : MmsValue} (type : value.getType = .float) :
    ∃ storage, value = .float storage := by
  cases value with
  | float storage => exact ⟨storage, rfl⟩
  | _ => cases type

theorem components_of_commandTypes {components : List (Option MmsValue)}
    (types : (typesOf components).take 7 = commandTypes) :
    ∃ trip close first second current voltage frequency extra,
      components = ([.boolean trip, .boolean close, .integer first, .integer second,
        .float current, .float voltage, .float frequency] : List MmsValue).map some ++ extra := by
  obtain ⟨_, _, rfl, isTrip, types⟩ := typesOf_take_succ types
  obtain ⟨_, _, rfl, isClose, types⟩ := typesOf_take_succ types
  obtain ⟨_, _, rfl, isFirst, types⟩ := typesOf_take_succ types
  obtain ⟨_, _, rfl, isSecond, types⟩ := typesOf_take_succ types
  obtain ⟨_, _, rfl, isCurrent, types⟩ := typesOf_take_succ types
  obtain ⟨_, _, rfl, isVoltage, types⟩ := typesOf_take_succ types
  obtain ⟨_, extra, rfl, isFrequency, -⟩ := typesOf_take_succ types
  obtain ⟨trip, rfl⟩ := getType_eq_boolean isTrip
  obtain ⟨close, rfl⟩ := getType_eq_boolean isClose
  obtain ⟨first, rfl⟩ := getType_eq_integer isFirst
  obtain ⟨second, rfl⟩ := getType_eq_integer isSecond
  obtain ⟨current, rfl⟩ := getType_eq_float isCurrent
  obtain ⟨voltage, rfl⟩ := getType_eq_float isVoltage
  obtain ⟨frequency, rfl⟩ := getType_eq_float isFrequency
  exact ⟨trip, close, first, second, current, voltage, frequency, extra, rfl⟩

/-! ### Integers have room in every data set -/

/-- Every integer of the data set in force has room for 32 bits. -/
def SubscriberProgram.RoomyData (program : SubscriberProgram) : Prop :=
  ∀ components, program.subscriber.dataSetValues = some components →
    ∀ entry ∈ shape components, Roomy entry

theorem SubscriberProgram.RoomyData.step {program next : SubscriberProgram}
    {reception : Reception} {output : Option ListenerCall} (roomy : program.RoomyData)
    (taken : program.step reception = some (next, output)) : next.RoomyData := by
  rcases step_cases taken with ⟨-, -, same, -⟩ | ⟨fields, call, found, -, accepted, -, -⟩
  · rw [RoomyData, same]
    exact roomy
  · intro components inForce
    rw [accepted] at inForce
    have data : (program.subscriber.readData fields).1 = some components := inForce
    rcases readData_cases data with ⟨-, created⟩ | ⟨before, retained, same⟩
    · obtain ⟨-, -, -, -, -, -, roomyCreated⟩ := createDataSet_eq_some created
      exact roomyCreated
    · rw [same]
      exact roomy before (retained_eq_some retained)

theorem roomyData_reach {buffer : List UInt8} {file : Option Text} {history : List Reception}
    {program : SubscriberProgram}
    (reached : Machine.reach SubscriberProgram.step (.start buffer file) history = some program) :
    program.RoomyData := by
  refine Machine.reach_invariant _ SubscriberProgram.RoomyData ?_ ?_ reached
  · intro state reception next output roomy taken
    exact roomy.step taken
  · intro components inForce
    cases inForce

/-! ### A receptive subscriber takes every message -/

/-- A float printed from storage of either width is printed as it was sent, a `NaN` too. -/
theorem printFixed_toFloat_setFloat (decimals : Nat) (storage : FloatingPoint) (bits : BitVec 32) :
    printFixed Ieee.binary32 decimals
        (MmsValue.toFloat (.float (storage.setFloat bits))).toNat =
      printFixed Ieee.binary32 decimals bits.toNat := by
  by_cases nan : Ieee.IsNan Ieee.binary32 bits.toNat
  · cases storage with
    | single _ => rfl
    | double _ =>
      have still := Ieee.isNan_narrow_widen nan
      have sign := Ieee.sign_narrow_widen bits
      rw [Ieee.IsNan] at nan still
      rw [FloatingPoint.setFloat, MmsValue.toFloat, printFixed, printFixed, if_pos nan,
        if_pos still, sign]
  · rw [MmsValue.toFloat_setFloat storage nan]

/-- The values of a message stored over a data set print as the message does. -/
theorem sharedLine_storedOver (dataset : Dataset) (current voltage frequency : FloatingPoint) :
    sharedLine { dataset with
      faultCurrent := MmsValue.toFloat (.float (current.setFloat dataset.faultCurrent))
      faultVoltage := MmsValue.toFloat (.float (voltage.setFloat dataset.faultVoltage))
      frequency := MmsValue.toFloat (.float (frequency.setFloat dataset.frequency)) } =
      sharedLine dataset := by
  rw [sharedLine, sharedLine, sharedFields, sharedFields]
  simp only [printFixed_toFloat_setFloat]

section Genuine

variable {program : SubscriberProgram} {message : Message} {srcAddr : MacAddress}
  {reception : Reception}

theorem inForce_receptive (roomy : program.RoomyData) (receptive : program.subscriber.Receptive)
    {fields : PayloadFields} {rest : List UInt8}
    (found : program.fields reception.frame = some fields) (carry : fields.Carry message rest) :
    ∃ first second current voltage frequency extra, program.inForce reception =
      some ((message.dataset.storedOver first second current voltage frequency).map some ++
        extra) := by
  rw [SubscriberProgram.inForce_eq found]
  cases retained : program.subscriber.retained fields.confRev with
  | none =>
    refine ⟨BerInteger.createInt32, BerInteger.createInt32, .single 0, .single 0, .single 0, [],
      ?_⟩
    rw [readData_create carry retained, List.append_nil]
  | some components =>
    have types := receptive components (by rw [← carry.confRev, retained])
    obtain ⟨trip, close, first, second, current, voltage, frequency, extra, rfl⟩ :=
      components_of_commandTypes types
    have rooms := roomy _ (SubscriberProgram.retained_eq_some retained)
    have firstRoom : Roomy (some (.integer, first.maxSize)) :=
      rooms _ (List.mem_of_getElem? (i := 2) rfl)
    have secondRoom : Roomy (some (.integer, second.maxSize)) :=
      rooms _ (List.mem_of_getElem? (i := 3) rfl)
    exact ⟨first, second, current, voltage, frequency, extra,
      readData_store carry firstRoom secondRoom retained⟩

theorem step_receptive (roomy : program.RoomyData) (receptive : program.subscriber.Receptive)
    (arrives : Arrives (message.frame srcAddr) reception.frame) :
    ∃ after call, program.step reception = some (after, some call) ∧
      after.file = some (sharedLine message.dataset) := by
  obtain ⟨fields, rest, found, carry⟩ := fields_frame program arrives
  obtain ⟨first, second, current, voltage, frequency, extra, force⟩ :=
    inForce_receptive roomy receptive found carry
  have read := readDataset_storedOver reception message.dataset first second current voltage
    frequency extra
  have enough : 7 ≤ ((message.dataset.storedOver first second current voltage frequency).map some ++
      extra).length := by
    rw [List.length_append]
    exact Nat.le_add_right 7 _
  obtain ⟨after, call, stepped⟩ := SubscriberProgram.step_isSome found (by
    intro components inForce _
    rw [force, Option.some.injEq] at inForce
    rw [← inForce, read]
    rfl)
  refine ⟨after, call, stepped, ?_⟩
  rcases SubscriberProgram.step_cases stepped with ⟨ignored, -⟩ | ⟨_, called, -, same, -, -, writes⟩
  · rw [found] at ignored
    cases ignored
  · rcases writes with ⟨small, -⟩ | ⟨components, dataset, inForce, -, extracted, -, file⟩
    · exact absurd (small _ force) (not_lt.mpr enough)
    · rw [force, Option.some.injEq] at inForce
      rw [← inForce, read, Option.some.injEq] at extracted
      rw [file, ← extracted, sharedLine_storedOver]

end Genuine

/-! ### What a refused value leaves in the line -/

/-- The field of the line that the component at an index gives. -/
def fieldText (strayTrip strayClose : Bool) : Nat → MmsValue → Text
  | 0, value => flagText (value.getBoolean strayTrip)
  | 1, value => flagText (value.getBoolean strayClose)
  | 2, value => printInteger value.toInt32.toInt
  | 3, value => printInteger value.toInt32.toInt
  | 4, value => printFixed Ieee.binary32 1 value.toFloat.toNat
  | 5, value => printFixed Ieee.binary32 0 value.toFloat.toNat
  | _, value => printFixed Ieee.binary32 1 value.toFloat.toNat

theorem sharedFields_readDataset {reception : Reception} {components : List (Option MmsValue)}
    {dataset : Dataset} (read : readDataset reception components = some dataset) {index : Nat}
    (inside : index < 7) :
    ∃ value, components[index]? = some (some value) ∧
      (sharedFields dataset)[index]? =
        some (fieldText reception.strayTrip reception.strayClose index value) := by
  unfold readDataset at read
  split at read
  · rw [Option.some.injEq] at read
    subst read
    match index, inside with
    | 0, _ => exact ⟨_, rfl, rfl⟩
    | 1, _ => exact ⟨_, rfl, rfl⟩
    | 2, _ => exact ⟨_, rfl, rfl⟩
    | 3, _ => exact ⟨_, rfl, rfl⟩
    | 4, _ => exact ⟨_, rfl, rfl⟩
    | 5, _ => exact ⟨_, rfl, rfl⟩
    | 6, _ => exact ⟨_, rfl, rfl⟩
  · cases read

theorem head_writtenFields (dataset : Dataset) {index : Nat} (inside : index < 7) :
    (writtenFields dataset)[index]?.bind List.head? =
      (sharedFields dataset)[index]?.bind List.head? := by
  have bound := length_lineStart_le dataset
  have size : ((sharedFields dataset).take 6).length = 6 := rfl
  rcases Nat.lt_succ_iff_lt_or_eq.mp inside with early | last
  · rw [writtenFields, List.getElem?_append_left (by rw [size]; exact early),
      List.getElem?_take_of_lt early]
  · subst last
    obtain ⟨room, room_eq⟩ : ∃ room, 127 - (lineStart dataset).length = room + 1 :=
      Nat.exists_eq_succ_of_ne_zero (by omega)
    rw [writtenFields, List.getElem?_append_right (by rw [size]), size, room_eq]
    show List.head? (List.take _ _) = List.head? _
    rw [List.head?_take, if_neg (Nat.succ_ne_zero _)]

/-- Lines that are equal agree in the first character of each field. -/
theorem heads_eq_of_sharedLine_eq {first second : Dataset}
    (equal : sharedLine first = sharedLine second) {index : Nat} (inside : index < 7) :
    (sharedFields first)[index]?.bind List.head? =
      (sharedFields second)[index]?.bind List.head? := by
  have fields := congrArg (fun line => (line.splitOn ',')[index]?.bind List.head?) equal
  simp only [splitOn_sharedLine] at fields
  rwa [head_writtenFields first inside, head_writtenFields second inside] at fields

theorem items_types {dataset : Dataset} {index : Nat} (inside : index < 7) :
    ∃ item, dataset.items[index]? = some item ∧ item.1 ∈ [0x83, 0x85, 0x87] ∧
      commandTypes[index]? = some (createdType item.1) := by
  have boolean : (0x83 : UInt8) ∈ [0x83, 0x85, 0x87] := by decide
  have integer : (0x85 : UInt8) ∈ [0x83, 0x85, 0x87] := by decide
  have float : (0x87 : UInt8) ∈ [0x83, 0x85, 0x87] := by decide
  match index, inside with
  | 0, _ => exact ⟨_, rfl, boolean, rfl⟩
  | 1, _ => exact ⟨_, rfl, boolean, rfl⟩
  | 2, _ => exact ⟨_, rfl, integer, rfl⟩
  | 3, _ => exact ⟨_, rfl, integer, rfl⟩
  | 4, _ => exact ⟨_, rfl, float, rfl⟩
  | 5, _ => exact ⟨_, rfl, float, rfl⟩
  | 6, _ => exact ⟨_, rfl, float, rfl⟩

/-- A component of another type than the publisher sends keeps its value. -/
theorem readData_refused {subscriber : GooseSubscriber} {fields : PayloadFields}
    {message : Message} {rest : List UInt8} (carry : fields.Carry message rest)
    {components : List (Option MmsValue)}
    (inForce : subscriber.retained fields.confRev = some components) {index : Nat}
    (inside : index < 7) {value : MmsValue} (atIndex : components[index]? = some (some value))
    (other : commandTypes[index]? ≠ some (some value.getType)) :
    ∃ decoded, (subscriber.readData fields).1 = some decoded ∧
      decoded[index]? = some (some value) := by
  obtain ⟨item, atItem, simple, type⟩ := @items_types message.dataset index inside
  refine ⟨_, by rw [GooseSubscriber.readData, inForce], ?_⟩
  rw [carry.dataSetBuffer, carry.dataSetBufferLength]
  refine parseElements_refused
    (fun item member => (message.dataset.length_items item member).trans (by decide))
    List.drop_zero (by omega) atItem atIndex (by decide : GooseParseError.typeMismatch ≠ .noError)
    fun tail => updateElement_typeMismatch simple ?_ _ _
  rw [type, Ne, Option.some.injEq] at other
  exact other

/-! ### Two messages without a common field -/

def oneValues : Dataset := ⟨true, true, 1, 1, 0x3f800000, 0x3f800000, 0x3f800000⟩

def zeroValues : Dataset := ⟨false, false, 0, 0, 0, 0, 0⟩

theorem heads_oneValues_ne_zeroValues : ∀ index < 7,
    (sharedFields oneValues)[index]?.bind List.head? ≠
      (sharedFields zeroValues)[index]?.bind List.head? := by
  decide +kernel

/-- The reception of the first message of a publisher that sends some values. -/
def firstReception (dataset : Dataset) : Reception :=
  ⟨Message.frame ⟨1, 0, 0, dataset⟩ ⟨[2, 0, 0, 0, 0, 1], rfl⟩, 0, 0, false, false⟩

/-- What a data set in force makes of a message whose values reach the file: it is too small and
they were there, or it is read, and the components that refuse their values are unchanged. -/
theorem delivered_cases {program after : SubscriberProgram} {dataset : Dataset}
    {call : Option ListenerCall} {components : List (Option MmsValue)}
    (retained : program.subscriber.retained 1 = some components)
    (taken : program.step (firstReception dataset) = some (after, call))
    (file : after.file = some (sharedLine dataset)) :
    components.length < 7 ∧ program.file = some (sharedLine dataset) ∨
      ∃ decoded read, shape decoded = shape components ∧
        readDataset (firstReception dataset) decoded = some read ∧
        sharedLine read = sharedLine dataset ∧
        ∀ (index : Nat) (value : MmsValue), index < 7 → components[index]? = some (some value) →
          commandTypes[index]? ≠ some (some value.getType) →
          decoded[index]? = some (some value) := by
  obtain ⟨fields, rest, found, carry⟩ := fields_frame program
    (.inl rfl : Arrives _ (firstReception dataset).frame)
  rw [← carry.confRev] at retained
  obtain ⟨decoded, readData, same⟩ := SubscriberProgram.shape_readData retained
  have force : program.inForce (firstReception dataset) = some decoded :=
    (SubscriberProgram.inForce_eq found).trans readData
  rcases SubscriberProgram.step_cases taken with ⟨ignored, -⟩ | ⟨_, _, -, -, -, -, writes⟩
  · rw [found] at ignored
    cases ignored
  · rcases writes with ⟨small, -, unchanged⟩ | ⟨other, read, inForce, -, extracted, -, written⟩
    · refine .inl ⟨?_, unchanged ▸ file⟩
      rw [← length_eq_of_shape_eq same]
      exact small decoded force
    · rw [force, Option.some.injEq] at inForce
      subst inForce
      rw [written, Option.some.injEq] at file
      refine .inr ⟨decoded, read, same, extracted, file, ?_⟩
      intro index value inside atIndex refuses
      obtain ⟨decoded', readData', kept⟩ := readData_refused carry retained inside atIndex refuses
      rw [readData, Option.some.injEq] at readData'
      rwa [readData']

theorem typesOf_getElem? {components : List (Option MmsValue)} {index : Nat} {value : MmsValue}
    (atIndex : components[index]? = some (some value)) :
    (typesOf components)[index]? = some (some value.getType) := by
  rw [typesOf, List.getElem?_map, atIndex]
  rfl

/-- If both messages reach the file, the data set is one for their types. -/
theorem receptive_of_delivered {program : SubscriberProgram}
    (delivered : ∀ dataset, ∃ after call, program.step (firstReception dataset) =
      some (after, call) ∧ after.file = some (sharedLine dataset)) :
    program.subscriber.Receptive := by
  intro components retained
  obtain ⟨_, _, takenOne, fileOne⟩ := delivered oneValues
  obtain ⟨_, _, takenZero, fileZero⟩ := delivered zeroValues
  have differ := heads_oneValues_ne_zeroValues
  rcases delivered_cases retained takenOne fileOne with
    ⟨small, was⟩ | ⟨ones, readOnes, sameOnes, extractedOnes, lineOnes, keptOnes⟩
  · rcases delivered_cases retained takenZero fileZero with
      ⟨-, was'⟩ | ⟨zeros, _, sameZeros, extractedZeros, -, -⟩
    · rw [was, Option.some.injEq] at was'
      exact absurd (heads_eq_of_sharedLine_eq was' (by decide)) (differ 0 (by decide))
    · obtain ⟨value, atIndex, -⟩ := sharedFields_readDataset extractedZeros (by decide : 6 < 7)
      have inside := (List.getElem?_eq_some_iff.mp atIndex).1
      rw [length_eq_of_shape_eq sameZeros] at inside
      omega
  · rcases delivered_cases retained takenZero fileZero with
      ⟨small, -⟩ | ⟨zeros, readZeros, sameZeros, extractedZeros, lineZeros, keptZeros⟩
    · obtain ⟨value, atIndex, -⟩ := sharedFields_readDataset extractedOnes (by decide : 6 < 7)
      have inside := (List.getElem?_eq_some_iff.mp atIndex).1
      rw [length_eq_of_shape_eq sameOnes] at inside
      omega
    · refine List.ext_getElem? fun index => ?_
      rcases lt_or_ge index 7 with inside | outside
      · rw [List.getElem?_take_of_lt inside]
        obtain ⟨one, atOne, fieldOne⟩ := sharedFields_readDataset extractedOnes inside
        obtain ⟨zero, atZero, fieldZero⟩ := sharedFields_readDataset extractedZeros inside
        have typeOne := typesOf_getElem? atOne
        rw [typesOf_eq_of_shape_eq sameOnes] at typeOne
        rw [typeOne]
        by_contra other
        -- The component refuses both values, so the two lines have this field in common.
        obtain ⟨value, atIndex, type⟩ : ∃ value, components[index]? = some (some value) ∧
            value.getType = one.getType := by
          rw [typesOf, List.getElem?_map, Option.map_eq_some_iff] at typeOne
          obtain ⟨component, atIndex, type⟩ := typeOne
          rw [Option.map_eq_some_iff] at type
          obtain ⟨value, rfl, type⟩ := type
          exact ⟨value, atIndex, type⟩
        rw [← type] at other
        have keptOne := keptOnes index value inside atIndex (Ne.symm other)
        have keptZero := keptZeros index value inside atIndex (Ne.symm other)
        rw [atOne, Option.some.injEq, Option.some.injEq] at keptOne
        rw [atZero, Option.some.injEq, Option.some.injEq] at keptZero
        refine differ index inside ?_
        rw [← heads_eq_of_sharedLine_eq lineOnes inside, ← heads_eq_of_sharedLine_eq lineZeros inside,
          fieldOne, fieldZero, keptOne, keptZero]
        rfl
      · rw [List.getElem?_eq_none (by rw [List.length_take]; omega),
          List.getElem?_eq_none (show commandTypes.length ≤ index from outside)]

/-! ### Every history -/

/-- After any frames that did not stop the program, every frame of the publisher leaves the line
of its values in the shared file, if and only if the data set in force for it, if there is one,
begins with the types of its values. -/
theorem genuine_frames_delivered_iff (buffer : List UInt8) (file : Option Text)
    (history : List Reception) (program : SubscriberProgram)
    (reached : Machine.reach SubscriberProgram.step (.start buffer file) history =
      some program) :
    (∀ (message : Message) (srcAddr : MacAddress) (reception : Reception),
        Arrives (message.frame srcAddr) reception.frame →
        ∃ after call, program.step reception = some (after, some call) ∧
          after.file = some (sharedLine message.dataset)) ↔
      program.subscriber.Receptive := by
  constructor
  · intro delivered
    refine receptive_of_delivered fun dataset => ?_
    obtain ⟨after, call, taken, written⟩ :=
      delivered ⟨1, 0, 0, dataset⟩ ⟨[2, 0, 0, 0, 0, 1], rfl⟩ (firstReception dataset) (.inl rfl)
    exact ⟨after, some call, taken, written⟩
  · intro receptive message srcAddr reception arrives
    exact step_receptive (roomyData_reach reached) receptive arrives

/-- A message without data, of some revision: the data set created from it is empty. -/
def emptyMessage (confRev : UInt8) : Reception := received (foreignFrame [(0x88, [confRev])])

/-- The data set of a message of another revision is dropped when the publisher's arrives. -/
theorem genuine_frames_delivered_after_other_revision :
    ∃ program, Machine.reach SubscriberProgram.step (.start [] none) [emptyMessage 2] =
        some program ∧
      ∀ (message : Message) (srcAddr : MacAddress) (reception : Reception),
        Arrives (message.frame srcAddr) reception.frame →
        ∃ after call, program.step reception = some (after, some call) ∧
          after.file = some (sharedLine message.dataset) := by
  have state : (Machine.reach SubscriberProgram.step (.start [] none) [emptyMessage 2]).map
      (fun program => (program.subscriber.retained 1).map List.length) = some none := by
    decide +kernel
  obtain ⟨program, reached, data⟩ := Option.map_eq_some_iff.mp state
  refine ⟨program, reached,
    (genuine_frames_delivered_iff [] none [emptyMessage 2] program reached).mpr ?_⟩
  intro components retained
  rw [retained] at data
  cases data

theorem empty_message_shuts_publisher_out :
    ∃ program, Machine.reach SubscriberProgram.step (.start [] none) [emptyMessage 1] =
        some program ∧
      ¬ ∃ after call, program.step (firstReception oneValues) = some (after, call) ∧
        after.file = some (sharedLine oneValues) := by
  have state : (Machine.reach SubscriberProgram.step (.start [] none) [emptyMessage 1]).map
      (fun program => (program.subscriber.retained 1).map List.length) = some (some 0) ∧
    (Machine.reach SubscriberProgram.step (.start [] none) [emptyMessage 1]).map
      SubscriberProgram.file = some none := by
    decide +kernel
  obtain ⟨program, reached, data⟩ := Option.map_eq_some_iff.mp state.1
  obtain ⟨components, retained, empty⟩ := Option.map_eq_some_iff.mp data
  have file := state.2
  rw [reached, Option.map_some, Option.some.injEq] at file
  refine ⟨program, reached, ?_⟩
  rintro ⟨after, call, taken, written⟩
  rcases delivered_cases retained taken written with ⟨-, was⟩ | ⟨decoded, read, same, extracted, -⟩
  · rw [file] at was
    cases was
  · obtain ⟨value, atIndex, -⟩ := sharedFields_readDataset extracted (by decide : 0 < 7)
    have inside := (List.getElem?_eq_some_iff.mp atIndex).1
    rw [length_eq_of_shape_eq same, empty] at inside
    exact absurd inside (lt_irrefl 0)

end Substation
