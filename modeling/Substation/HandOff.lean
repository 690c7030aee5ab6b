/-
This file is the hand-off through `/tmp/gui_data.txt` between two processes
without a lock. An update of the GUI is two observable steps: `open(path, 'w')`
empties the file, and the close writes the whole record. A turn of the publisher
reads whatever the file holds at that instant.

Between the two steps of an update the publisher reads nothing and keeps its
built-in defaults, so a turn publishes the values of the last completed record
exactly when it does not fall there, or when that record happens to give the
values of the defaults.
-/

import Substation.Numbering

namespace Substation

open Decimal

/-! ### The two processes and the file -/

structure HandOff where
  file : Text
  /-- The record most recently written in full. -/
  completed : GuiRecord
  /-- The record of an update that has opened the file and not yet closed it. -/
  writing : Option GuiRecord
  loop : PublishLoop

namespace HandOff

inductive Event
  /-- The next step of the GUI, whose variables hold `record`. -/
  | gui (record : GuiRecord)
  /-- A turn of the publisher. -/
  | publisher (now : Nat)

/-- The record of the start script is in the file. -/
def start (srcAddr : MacAddress) (startTime : Nat) (initial : GuiRecord) : HandOff where
  file := initial.line
  completed := initial
  writing := none
  loop := PublishLoop.start srcAddr startTime

/-- A turn of the publisher puts out its publication, with the record completed before it. -/
def step (self : HandOff) : Event → HandOff × Option (GuiRecord × Publication)
  | .gui record =>
    match self.writing with
    | none => ({ self with file := [], writing := some record }, none)
    | some written =>
      ({ self with file := written.line, completed := written, writing := none }, none)
  | .publisher now =>
    let turn := self.loop.iterate ⟨some self.file, now⟩
    ({ self with loop := turn.1 }, some (self.completed, turn.2))

/-- The values the protection logic gives for a record. -/
def protectedValues (record : GuiRecord) : Dataset :=
  (protectionLogic record.data).dataset

/-- Every publication of a run is the protection logic applied to the record most recently
completed before its read. -/
def Exact (self : HandOff) (events : List Event) : Prop :=
  ∀ output ∈ Machine.outputs step self events, ∀ record publication,
    output = some (record, publication) → publication.dataset = protectedValues record

/-- A turn now reads the completed record, or one that gives the values of the defaults. -/
def Undisturbed (self : HandOff) : Prop :=
  self.writing = none ∨
    protectedValues self.completed = (protectionLogic (readGuiData none)).dataset

/-! ### What the file holds -/

/-- The file is empty during an update and holds the completed record otherwise. -/
def Whole (self : HandOff) : Prop :=
  self.file = match self.writing with
    | none => self.completed.line
    | some _ => []

theorem Whole.start (srcAddr : MacAddress) (startTime : Nat) (initial : GuiRecord) :
    (start srcAddr startTime initial).Whole := rfl

theorem Whole.step {self : HandOff} (whole : self.Whole) (event : Event) :
    (self.step event).1.Whole := by
  cases event with
  | gui record =>
    unfold HandOff.step
    cases writing : self.writing with
    | none => rfl
    | some written => rfl
  | publisher now => exact whole

theorem step_gui_output (self : HandOff) (record : GuiRecord) :
    (self.step (.gui record)).2 = none := by
  unfold step
  cases self.writing <;> rfl

theorem iterate_dataset (loop : PublishLoop) (turn : PublishLoop.Turn) :
    (loop.iterate turn).2.dataset = (protectionLogic (readGuiData turn.file)).dataset := rfl

/-- A turn publishes the completed record exactly when it is undisturbed. -/
theorem Whole.exact_iff {self : HandOff} (whole : self.Whole) (now : Nat) :
    (self.loop.iterate ⟨some self.file, now⟩).2.dataset = protectedValues self.completed ↔
      self.Undisturbed := by
  rw [iterate_dataset, Undisturbed]
  rw [Whole] at whole
  cases writing : self.writing with
  | none =>
    rw [writing] at whole
    rw [whole, readGuiData_line]
    exact ⟨fun _ => .inl rfl, fun _ => rfl⟩
  | some written =>
    rw [writing] at whole
    rw [whole, readGuiData_empty]
    constructor
    · exact fun equal => .inr equal.symm
    · rintro (impossible | equal)
      · cases impossible
      · exact equal.symm

/-! ### Whole runs -/

/-- In every run, all publications are those of the record last completed before their read, if
and only if every turn of the publisher is undisturbed. -/
theorem exact_iff_undisturbed (srcAddr : MacAddress) (startTime : Nat) (initial : GuiRecord)
    (events : List Event) :
    (start srcAddr startTime initial).Exact events ↔
      ∀ index now, events[index]? = some (.publisher now) →
        (Machine.final step (start srcAddr startTime initial)
          (events.take index)).Undisturbed := by
  have whole (index : Nat) : (Machine.final step (start srcAddr startTime initial)
      (events.take index)).Whole :=
    Machine.final_invariant step Whole (fun _ event holds => holds.step event)
      (Whole.start srcAddr startTime initial) _
  constructor
  · intro exact index now found
    refine ((whole index).exact_iff now).mp (exact _ ?_ _ _ rfl)
    rw [List.mem_iff_getElem?]
    exact ⟨index, by rw [Machine.getElem?_outputs, found]; rfl⟩
  · intro undisturbed output member record publication equal
    obtain ⟨index, found⟩ := List.mem_iff_getElem?.mp member
    rw [Machine.getElem?_outputs, Option.map_eq_some_iff] at found
    obtain ⟨event, atIndex, rfl⟩ := found
    cases event with
    | gui record =>
      rw [step_gui_output] at equal
      cases equal
    | publisher now =>
      rw [step, Option.some.injEq, Prod.mk.injEq] at equal
      obtain ⟨rfl, rfl⟩ := equal
      exact ((whole index).exact_iff now).mpr (undisturbed index now atIndex)

/-- The record of the start script. -/
def scriptRecord : GuiRecord where
  trip := false
  close := false
  faultType := 0
  protElement := 50
  current := .tenths 12505
  voltage := .tenths 105000
  frequency := .tenths 498

example : scriptRecord.line = "0,0,0,50,1250.5,10500.0,49.8\n".toList := by decide +kernel

/-- The GUI writes a record with the trip set, and is about to write it again when the publisher
reads: the trip is withdrawn for one message. -/
theorem trip_withdrawn_by_torn_read :
    let tripping := { scriptRecord with trip := true }
    ¬ (start ⟨[2, 0, 0, 0, 0, 1], rfl⟩ 0 scriptRecord).Exact
      [.gui tripping, .gui tripping, .gui tripping, .publisher 100] := by
  intro tripping exact
  have withdrawn := congrArg Dataset.tripCommand
    (exact _ (by right; right; right; left) tripping _ rfl)
  revert withdrawn
  decide +kernel

end HandOff

end Substation
