/-
This file is about the test of the listener: a data set with at least seven
components. The data set is created without a template from the first message
that matches, so the test says nothing about what the components are. It is
enough exactly when every message that creates a data set of seven or more
elements sends, not counting the elements passed over, two booleans, two integers
and three floats first; from then on decoding in place keeps the types.
-/

import Substation.Decoding
import Substation.Subscriber

namespace Substation

/-! ### The types the accessors assume -/

/-- For each of the seven indices, the types its accessor is made for. -/
def accessorTypes : List (List MmsType) :=
  [[.boolean], [.boolean], [.integer, .unsigned], [.integer, .unsigned], [.float], [.float],
    [.float]]

/-- The first seven components are present and of these types. -/
def Assumed (types : List (Option MmsType)) : Prop :=
  ∀ (index : Nat) (allowed : List MmsType), accessorTypes[index]? = some allowed →
    ∃ type ∈ allowed, types[index]? = some (some type)

def typesOf (components : List (Option MmsValue)) : List (Option MmsType) :=
  components.map (Option.map MmsValue.getType)

/-- The types of the elements of a message that are not passed over. -/
def sentTypes (found : List Element) : List (Option MmsType) :=
  (found.filter storable).map fun element => createdType element.tag

/-- Components that are absent do not help. -/
theorem assumed_append_replicate (types : List (Option MmsType)) (count : Nat) :
    Assumed (types ++ List.replicate count none) ↔ Assumed types := by
  have same (index : Nat) (type : MmsType) :
      (types ++ List.replicate count none)[index]? = some (some type) ↔
        types[index]? = some (some type) := by
    rcases lt_or_ge index types.length with inside | outside
    · rw [List.getElem?_append_left inside]
    · rw [List.getElem?_append_right outside, List.getElem?_eq_none outside,
        List.getElem?_replicate]
      split <;> simp
  simp only [Assumed, same]

/-! ### Data sets that are created -/

/-- A data set has one component for each element of its message; those of the elements passed
over are absent, at the end. -/
theorem createDataSet_eq_some {buffer : List UInt8} {allDataLength : Nat}
    {components : List (Option MmsValue)}
    (created : createDataSet buffer allDataLength = some components) :
    ∃ (found : List Element) (types : List MmsType), allElements buffer allDataLength = some found ∧
      sentTypes found = types.map some ∧ types.length ≤ found.length ∧
      typesOf components = types.map some ++ List.replicate (found.length - types.length) none ∧
      ∀ entry ∈ shape components, Roomy entry := by
  obtain ⟨found, values, walked, made, rfl⟩ := createDataSet_inversion created
  obtain ⟨types, roomy⟩ := createValues_types made
  refine ⟨found, values.map MmsValue.getType, walked, ?_, ?_, ?_, ?_⟩
  · rw [sentTypes, ← types, List.map_map]
    rfl
  · have lengths := congrArg List.length types
    rw [List.length_map, List.length_map] at lengths
    rw [List.length_map]
    exact lengths ▸ List.length_filter_le _ _
  · rw [typesOf, List.map_append, List.map_map, List.map_map, List.map_replicate,
      List.length_map]
    rfl
  · rw [shape, List.map_append, List.map_map, List.map_replicate]
    intro entry member
    rcases List.mem_append.mp member with present | absent
    · obtain ⟨value, inValues, rfl⟩ := List.mem_map.mp present
      exact roomy value inValues
    · rw [List.eq_of_mem_replicate absent]
      trivial

/-- The data set created from a message is as large as the message, and of the types assumed when
the message is. -/
theorem createDataSet_assumed {buffer : List UInt8} {allDataLength : Nat}
    {components : List (Option MmsValue)}
    (created : createDataSet buffer allDataLength = some components) :
    ∃ found, allElements buffer allDataLength = some found ∧
      components.length = found.length ∧
      (Assumed (typesOf components) ↔ Assumed (sentTypes found)) := by
  obtain ⟨found, types, walked, sent, count, all, -⟩ := createDataSet_eq_some created
  refine ⟨found, walked, ?_, by rw [all, sent, assumed_append_replicate]⟩
  have lengths := congrArg List.length all
  rw [typesOf, List.length_map, List.length_append, List.length_map, List.length_replicate]
    at lengths
  omega

theorem typesOf_eq_of_shape_eq {first second : List (Option MmsValue)}
    (same : shape first = shape second) : typesOf first = typesOf second := by
  have types (components : List (Option MmsValue)) :
      typesOf components = (shape components).map (Option.map Prod.fst) := by
    rw [typesOf, shape, List.map_map]
    refine List.map_congr_left fun component _ => ?_
    cases component <;> rfl
  rw [types, types, same]

theorem length_eq_of_shape_eq {first second : List (Option MmsValue)}
    (same : shape first = shape second) : first.length = second.length := by
  have lengths := congrArg List.length same
  rwa [shape, shape, List.length_map, List.length_map] at lengths

/-! ### One step -/

namespace SubscriberProgram

/-- Past the test of the listener, every accessor finds what it assumes. -/
def CheckSuffices (self : SubscriberProgram) (reception : Reception) : Prop :=
  ∀ components, self.inForce reception = some components → 7 ≤ components.length →
    Assumed (typesOf components)

/-- A frame from which a data set of at least seven elements is created sends elements of the
types the accessors assume first. -/
def CreatesCommands (self : SubscriberProgram) (reception : Reception) : Prop :=
  ∀ fields, self.fields reception.frame = some fields →
    self.subscriber.retained fields.confRev = none →
    ∀ found, allElements fields.dataSetBuffer fields.dataSetBufferLength = some found →
      7 ≤ found.length →
      (createDataSet fields.dataSetBuffer fields.dataSetBufferLength).isSome →
      Assumed (sentTypes found)

/-- A data set of at least seven components in force is of the types assumed. -/
def Commanding (self : SubscriberProgram) : Prop :=
  ∀ components, self.subscriber.dataSetValues = some components → 7 ≤ components.length →
    Assumed (typesOf components)

/-- Where a data set is in force, decoding keeps its shape. -/
theorem shape_readData {subscriber : GooseSubscriber} {fields : PayloadFields}
    {components : List (Option MmsValue)}
    (inForce : subscriber.retained fields.confRev = some components) :
    ∃ decoded, (subscriber.readData fields).1 = some decoded ∧
      shape decoded = shape components := by
  rw [GooseSubscriber.readData, inForce]
  exact ⟨_, rfl, shape_parseElements _ _ 0 components⟩

theorem readData_of_absent {subscriber : GooseSubscriber} {fields : PayloadFields}
    (absent : subscriber.retained fields.confRev = none) :
    (subscriber.readData fields).1 =
      createDataSet fields.dataSetBuffer fields.dataSetBufferLength := by
  rw [GooseSubscriber.readData, absent]

theorem retained_eq_some {subscriber : GooseSubscriber} {confRev : BitVec 32}
    {components : List (Option MmsValue)} (inForce : subscriber.retained confRev = some components) :
    subscriber.dataSetValues = some components := by
  rw [GooseSubscriber.retained] at inForce
  split_ifs at inForce
  exact inForce

/-- Where the data set after a message comes from: it was created, or keeps the shape of the one
in force. -/
theorem readData_cases {subscriber : GooseSubscriber} {fields : PayloadFields}
    {components : List (Option MmsValue)}
    (data : (subscriber.readData fields).1 = some components) :
    (subscriber.retained fields.confRev = none ∧
        createDataSet fields.dataSetBuffer fields.dataSetBufferLength = some components) ∨
      ∃ before, subscriber.retained fields.confRev = some before ∧
        shape components = shape before := by
  cases retained : subscriber.retained fields.confRev with
  | none => exact .inl ⟨rfl, by rw [← readData_of_absent retained, data]⟩
  | some before =>
    obtain ⟨decoded, equal, same⟩ := shape_readData retained
    rw [data, Option.some.injEq] at equal
    exact .inr ⟨before, rfl, equal ▸ same⟩

theorem inForce_eq_some {self : SubscriberProgram} {reception : Reception}
    {components : List (Option MmsValue)} (inForce : self.inForce reception = some components) :
    ∃ fields, self.fields reception.frame = some fields ∧
      (self.subscriber.readData fields).1 = some components :=
  Option.bind_eq_some_iff.mp inForce

/-- The test suffices for a step exactly when the step does not create a data set of other
types, given that none is in force. -/
theorem checkSuffices_iff {self : SubscriberProgram} (commanding : self.Commanding)
    (reception : Reception) : self.CheckSuffices reception ↔ self.CreatesCommands reception := by
  constructor
  · intro suffices_ fields found absent elements walked enough isCreated
    obtain ⟨components, created⟩ := Option.isSome_iff_exists.mp isCreated
    obtain ⟨elements', walked', count, types⟩ := createDataSet_assumed created
    rw [walked, Option.some.injEq] at walked'
    subst walked'
    refine types.mp (suffices_ components ?_ (count ▸ enough))
    rw [inForce_eq found, readData_of_absent absent, created]
  · intro creates components inForce enough
    obtain ⟨fields, found, data⟩ := inForce_eq_some inForce
    rcases readData_cases data with ⟨absent, created⟩ | ⟨before, retained, same⟩
    · obtain ⟨elements, walked, count, types⟩ := createDataSet_assumed created
      refine types.mpr (creates fields found absent elements walked (count ▸ enough) ?_)
      rw [created]
      rfl
    · rw [typesOf_eq_of_shape_eq same]
      exact commanding before (retained_eq_some retained) (length_eq_of_shape_eq same ▸ enough)

theorem Commanding.step {self next : SubscriberProgram} {reception : Reception}
    {output : Option ListenerCall} (commanding : self.Commanding)
    (suffices_ : self.CheckSuffices reception)
    (taken : self.step reception = some (next, output)) : next.Commanding := by
  rcases step_cases taken with ⟨-, -, same, -⟩ | ⟨fields, call, found, -, accepted, -, -⟩
  · rw [Commanding, same]
    exact commanding
  · intro components inForce enough
    refine suffices_ components ?_ enough
    rw [inForce_eq found]
    rw [accepted] at inForce
    exact inForce

end SubscriberProgram

/-! ### Whole runs -/

/-- In every run, past the test of the listener every accessor finds a component of the type it
assumes, if and only if every data set of at least seven elements is created from a message whose
elements have these types. -/
theorem listener_check_suffices_iff (buffer : List UInt8) (file : Option Decimal.Text)
    (receptions : List Reception) :
    Machine.Always SubscriberProgram.step SubscriberProgram.CheckSuffices (.start buffer file)
        receptions ↔
      Machine.Always SubscriberProgram.step SubscriberProgram.CreatesCommands (.start buffer file)
        receptions := by
  have initially : (SubscriberProgram.start buffer file).Commanding := by
    intro components inForce
    cases inForce
  constructor
  · refine Machine.Always.of_invariant _ SubscriberProgram.Commanding ?_ ?_ initially
    · intro program reception next output commanding suffices_ taken
      exact commanding.step suffices_ taken
    · intro program reception commanding
      exact (program.checkSuffices_iff commanding reception).mp
  · refine Machine.Always.of_invariant _ SubscriberProgram.Commanding ?_ ?_ initially
    · intro program reception next output commanding creates taken
      exact commanding.step ((program.checkSuffices_iff commanding reception).mpr creates) taken
    · intro program reception commanding
      exact (program.checkSuffices_iff commanding reception).mpr

/-! ### A message that gets past the test -/

/-- A frame with the addresses and the reference of the subscriber and any further fields. -/
def foreignFrame (fields : List (UInt8 × List UInt8)) : List UInt8 :=
  let payload := encodeElement 0x61 (encodeElements ((0x80, goCbRef) :: fields))
  subscriberParameters.dstMac ++ [2, 0, 0, 0, 0, 9] ++
    [0x88, 0xb8, 0x03, 0xe8, UInt8.ofNat ((payload.length + 8) / 256),
      UInt8.ofNat ((payload.length + 8) % 256), 0, 0, 0, 0] ++ payload

/-- The reception of a frame at time zero, with no stray flag set. -/
def received (frame : List UInt8) : Reception := ⟨frame, 0, 0, false, false⟩

/-- Two booleans, two integers, two floats and a float of four octets: seven elements, of which
the last is passed over. -/
def shortFloatData : List (UInt8 × List UInt8) :=
  [(0x83, [1]), (0x83, [0]), (0x85, [0]), (0x85, [50]), (0x87, [8, 0, 0, 0, 0]),
    (0x87, [8, 0, 0, 0, 0]), (0x87, [8, 0, 0, 0])]

/-- The listener gets past its test and reads the last value through `NULL`. -/
theorem listener_check_misses_absent_component :
    ¬ Machine.Always SubscriberProgram.step SubscriberProgram.CheckSuffices (.start [] none)
      [received (foreignFrame [(0x88, [1]), (0xab, encodeElements shortFloatData)])] := by
  intro always
  have suffices_ := always 0 _ _ rfl rfl
  have types : ((SubscriberProgram.start [] none).inForce (received
      (foreignFrame [(0x88, [1]), (0xab, encodeElements shortFloatData)]))).map typesOf =
      some [some .boolean, some .boolean, some .integer, some .integer, some .float, some .float,
        none] := by
    decide +kernel
  rw [Option.map_eq_some_iff] at types
  obtain ⟨components, inForce, types⟩ := types
  have enough : 7 ≤ components.length := by
    have count := congrArg List.length types
    rw [typesOf, List.length_map] at count
    exact count.ge
  obtain ⟨type, -, absent⟩ := suffices_ components inForce enough 6 _ rfl
  rw [types] at absent
  cases absent

end Substation
