/-
This file is about the messages a subscriber has to ignore: those the receiver
finds invalid, a repeated number or a parse error among them, and those sent with
the simulation flag or with `ndsCom`. The listener shows the state of the message
and never asks for it, so such a message leaves the shared file as it is exactly
when the data set in force lacks one of its first seven components.
-/

import Substation.Recovery

namespace Substation

open Decimal

/-! ### Data sets the listener does not write -/

/-- One of the components 0 to 6 is not there. -/
def Lacks (components : List (Option MmsValue)) : Prop :=
  ∃ index < 7, components[index]?.join = none

theorem lacks_iff_typesOf (components : List (Option MmsValue)) :
    Lacks components ↔ ∃ index < 7, (typesOf components)[index]?.join = none := by
  refine exists_congr fun index => and_congr_right fun _ => ?_
  rw [typesOf, List.getElem?_map]
  cases components[index]? with
  | none => simp
  | some component => cases component <;> simp

theorem exists_cons_of_present {components : List (Option MmsValue)}
    (present : components[0]?.join ≠ none) :
    ∃ value others, components = some value :: others := by
  cases components with
  | nil => exact absurd rfl present
  | cons component others =>
    cases component with
    | none => exact absurd rfl present
    | some value => exact ⟨value, others, rfl⟩

theorem readDataset_eq_none_iff (reception : Reception) (components : List (Option MmsValue)) :
    readDataset reception components = none ↔ Lacks components := by
  constructor
  · intro unread
    by_contra complete
    have present : ∀ index < 7, components[index]?.join ≠ none := by
      intro index inside absent
      exact complete ⟨index, inside, absent⟩
    obtain ⟨_, _, rfl⟩ := exists_cons_of_present (present 0 (by decide))
    obtain ⟨_, _, rfl⟩ := exists_cons_of_present (present 1 (by decide))
    obtain ⟨_, _, rfl⟩ := exists_cons_of_present (present 2 (by decide))
    obtain ⟨_, _, rfl⟩ := exists_cons_of_present (present 3 (by decide))
    obtain ⟨_, _, rfl⟩ := exists_cons_of_present (present 4 (by decide))
    obtain ⟨_, _, rfl⟩ := exists_cons_of_present (present 5 (by decide))
    obtain ⟨_, _, rfl⟩ := exists_cons_of_present (present 6 (by decide))
    cases unread
  · rintro ⟨index, inside, absent⟩
    cases read : readDataset reception components with
    | none => rfl
    | some dataset =>
      obtain ⟨value, atIndex, -⟩ := sharedFields_readDataset read inside
      rw [atIndex] at absent
      cases absent

theorem lacks_of_short {components : List (Option MmsValue)} (short : components.length < 7) :
    Lacks components :=
  ⟨components.length, short, by rw [List.getElem?_eq_none le_rfl]; rfl⟩

/-- A data set that is created lacks a component exactly when fewer than seven elements of its
message are stored. -/
theorem lacks_createDataSet {buffer : List UInt8} {allDataLength : Nat}
    {components : List (Option MmsValue)}
    (created : createDataSet buffer allDataLength = some components) :
    ∃ found, allElements buffer allDataLength = some found ∧
      (Lacks components ↔ (found.filter storable).length < 7) := by
  obtain ⟨found, types, walked, sent, -, all, -⟩ := createDataSet_eq_some created
  have count : (found.filter storable).length = types.length := by
    have lengths := congrArg List.length sent
    rwa [sentTypes, List.length_map, List.length_map] at lengths
  refine ⟨found, walked, ?_⟩
  rw [lacks_iff_typesOf, all, count]
  constructor
  · rintro ⟨index, inside, absent⟩
    by_contra enough
    rw [List.getElem?_append_left (by rw [List.length_map]; omega), List.getElem?_map,
      List.getElem?_eq_getElem (by omega)] at absent
    cases absent
  · intro few
    refine ⟨types.length, few, ?_⟩
    rw [List.getElem?_append_right (by rw [List.length_map]), List.getElem?_replicate]
    split <;> rfl

namespace SubscriberProgram

/-- The data set in force for a frame, or the one to be created from it, lacks a component. -/
def Lacking (self : SubscriberProgram) (reception : Reception) : Prop :=
  ∀ fields, self.fields reception.frame = some fields →
    (∀ components, self.subscriber.retained fields.confRev = some components →
        Lacks components) ∧
      (self.subscriber.retained fields.confRev = none →
        ∀ found, allElements fields.dataSetBuffer fields.dataSetBufferLength = some found →
          (createDataSet fields.dataSetBuffer fields.dataSetBufferLength).isSome →
          (found.filter storable).length < 7)

theorem lacking_iff_inForce (self : SubscriberProgram) (reception : Reception) :
    self.Lacking reception ↔
      ∀ components, self.inForce reception = some components → Lacks components := by
  have kept {before decoded : List (Option MmsValue)} (same : shape decoded = shape before) :
      Lacks before ↔ Lacks decoded := by
    rw [lacks_iff_typesOf, lacks_iff_typesOf, typesOf_eq_of_shape_eq same]
  constructor
  · intro lacking components inForce
    obtain ⟨fields, found, data⟩ := inForce_eq_some inForce
    rcases readData_cases data with ⟨absent, created⟩ | ⟨before, retained, same⟩
    · obtain ⟨elements, walked, few⟩ := lacks_createDataSet created
      refine few.mpr ((lacking fields found).2 absent elements walked ?_)
      rw [created]
      rfl
    · exact (kept same).mp ((lacking fields found).1 before retained)
  · intro lacks fields found
    refine ⟨?_, ?_⟩
    · intro before retained
      obtain ⟨decoded, equal, same⟩ := shape_readData retained
      exact (kept same).mpr (lacks decoded ((inForce_eq found).trans equal))
    · intro retained elements walked isCreated
      obtain ⟨components, created⟩ := Option.isSome_iff_exists.mp isCreated
      obtain ⟨elements', walked', few⟩ := lacks_createDataSet created
      rw [walked, Option.some.injEq] at walked'
      subst walked'
      refine few.mp (lacks components ?_)
      rw [inForce_eq found, readData_of_absent retained, created]

/-! ### One step -/

/-- A frame the receiver finds invalid when the listener is called, or one sent with the
simulation flag or with `ndsCom`. -/
def Unacceptable (self : SubscriberProgram) (reception : Reception) : Prop :=
  ∃ fields, self.fields reception.frame = some fields ∧
    let subscriber := self.subscriber.accept fields reception.now
    subscriber.isValid reception.later = false ∨ subscriber.simulation = true ∨
      subscriber.ndsCom = true

/-- A frame leaves the shared file as it is, whatever it holds. -/
def LeavesFile (self : SubscriberProgram) (reception : Reception) : Prop :=
  ∀ content next output,
    ({ self with file := content } : SubscriberProgram).step reception = some (next, output) →
    next.file = content

/-- The listener writes the file exactly when nothing it reads is missing. -/
theorem leavesFile_iff (self : SubscriberProgram) (reception : Reception) :
    self.LeavesFile reception ↔ self.Lacking reception := by
  rw [lacking_iff_inForce]
  constructor
  · intro leaves components inForce
    by_contra complete
    have read : (readDataset reception components).isSome := by
      rw [Option.isSome_iff_ne_none, Ne, readDataset_eq_none_iff]
      exact complete
    obtain ⟨fields, found, -⟩ := inForce_eq_some inForce
    obtain ⟨next, call, taken⟩ :=
      @step_isSome { self with file := none } reception fields found (by
        intro other same _
        have equal : some components = some other := inForce.symm.trans same
        rw [Option.some.injEq] at equal
        exact equal ▸ read)
    have unchanged := leaves none next (some call) taken
    rcases step_cases taken with ⟨ignored, -⟩ | ⟨_, _, -, -, -, -, small | written⟩
    · exact absurd (found.symm.trans ignored) (Option.some_ne_none _)
    · exact complete (lacks_of_short (small.1 components inForce))
    · obtain ⟨_, dataset, -, -, -, -, file⟩ := written
      rw [file] at unchanged
      cases unchanged
  · intro lacks content next output taken
    rcases step_cases taken with ⟨-, -, -, same⟩ | ⟨_, _, -, -, -, -, small | written⟩
    · exact same
    · exact small.2.2
    · obtain ⟨components, dataset, inForce, -, read, -⟩ := written
      have unread := (readDataset_eq_none_iff reception components).mpr (lacks components inForce)
      rw [read] at unread
      cases unread

end SubscriberProgram

/-! ### Whole runs -/

/-- In every run, every frame that has to be ignored leaves the shared file as it is, if and only
if each such frame meets a data set that lacks one of its first seven components. -/
theorem unacceptable_frames_leave_file_iff (buffer : List UInt8) (file : Option Text)
    (receptions : List Reception) :
    Machine.Always SubscriberProgram.step
        (fun program reception => program.Unacceptable reception → program.LeavesFile reception)
        (.start buffer file) receptions ↔
      Machine.Always SubscriberProgram.step
        (fun program reception => program.Unacceptable reception → program.Lacking reception)
        (.start buffer file) receptions := by
  simp only [SubscriberProgram.leavesFile_iff]

/-- A repeated number: the message is found invalid, and its trip command is written. -/
theorem duplicate_number_writes_trip :
    ∃ program, Machine.reach SubscriberProgram.step (.start [] none)
        [firstReception zeroValues] = some program ∧
      program.Unacceptable (firstReception oneValues) ∧
      ∃ next call, program.step (firstReception oneValues) = some (next, some call) ∧
        call.valid = false ∧ next.file ≠ program.file := by
  have run : (Machine.reach SubscriberProgram.step (.start [] none)
      [firstReception zeroValues]).bind (fun program =>
        (program.step (firstReception oneValues)).bind fun pair => pair.2.map fun call =>
          (program.file, pair.1.file, call.valid)) =
      some (some (sharedLine zeroValues), some (sharedLine oneValues), false) := by
    decide +kernel
  obtain ⟨program, reached, rest⟩ := Option.bind_eq_some_iff.mp run
  obtain ⟨⟨next, output⟩, taken, rest⟩ := Option.bind_eq_some_iff.mp rest
  obtain ⟨call, rfl, rest⟩ := Option.map_eq_some_iff.mp rest
  simp only [Prod.mk.injEq] at rest
  obtain ⟨before, after, invalid⟩ := rest
  refine ⟨program, reached, ?_, next, call, taken, invalid, ?_⟩
  · rcases SubscriberProgram.step_cases taken with
      ⟨-, silent, -⟩ | ⟨fields, other, found, same, accepted, valid, -⟩
    · cases silent
    · rw [Option.some.injEq] at same
      subst same
      exact ⟨fields, found, .inl (by rw [← accepted, ← valid, invalid])⟩
  · rw [before, after]
    decide +kernel

end Substation
