/-
This file proves the numbering law of the publisher program: over every run on
contents the GUI can produce, the state number changes exactly with the published
values, and the sequence number, the time stamp and the pacing follow it.

The comparison of the loop is on the seven variables, the law on the published
values. They agree because the flags the GUI writes are `0` or `1` and no number
it writes is read as a `NaN`.
-/

import Substation.PublisherProgram

namespace Substation

open Decimal

/-! ### What the GUI can leave in the file -/

inductive GuiFile
  | missing
  | empty
  | complete (record : GuiRecord)

def GuiFile.content : GuiFile → Option Text
  | missing => none
  | empty => some []
  | complete record => some record.line

/-! ### The variables of the loop on such contents -/

/-- Flags that are `0` or `1`, and measurements that are numbers. -/
structure GuiData.Plain (data : GuiData) : Prop where
  trip : data.trip = 0 ∨ data.trip = 1
  close : data.close = 0 ∨ data.close = 1
  current : Ieee.number Ieee.binary32 data.current.toNat ≠ .nan
  voltage : Ieee.number Ieee.binary32 data.voltage.toNat ≠ .nan
  freq : Ieee.number Ieee.binary32 data.freq.toNat ≠ .nan

theorem flagWord_plain (flag : Bool) : flagWord flag = 0 ∨ flagWord flag = 1 := by
  cases flag
  · exact .inl rfl
  · exact .inr rfl

/-- A decimal number is never read as a `NaN`; one that is too large is read as infinity. -/
theorem number_numeralBits_ne_nan (numeral : Numeral) :
    Ieee.number Ieee.binary32 (numeralBits numeral).toNat ≠ .nan := by
  have magnitude := Ieee.binary32.roundMagnitude_le_infinity numeral.magnitude
  have below := Ieee.binary32.infinity_lt_signWeight
  rw [numeralBits, toNat_floatOf, Ieee.number, Ieee.ofRat,
    Ieee.Format.magnitude_withSign _ (by omega), if_neg (by omega)]
  split_ifs <;> exact Ieee.Number.noConfusion

theorem GuiFile.plain_readGuiData (file : GuiFile) : (readGuiData file.content).Plain := by
  have defaults : (readGuiData none).Plain :=
    ⟨.inl rfl, .inl rfl, by decide +kernel, by decide +kernel, by decide +kernel⟩
  cases file with
  | missing => exact defaults
  | empty => exact defaults
  | complete record =>
    rw [content, readGuiData_line]
    exact ⟨flagWord_plain _, flagWord_plain _, number_numeralBits_ne_nan _,
      number_numeralBits_ne_nan _, number_numeralBits_ne_nan _⟩

theorem GuiData.Plain.protectionLogic {data : GuiData} (plain : data.Plain) :
    (protectionLogic data).Plain := by
  unfold Substation.protectionLogic
  dsimp only
  split
  · exact ⟨.inr rfl, plain.close, plain.current, plain.voltage, plain.freq⟩
  · exact plain

/-! ### The detected change is a change of a published value -/

/-- At least one of the published values differs as a number. -/
def Dataset.Differs (first second : Dataset) : Prop :=
  first.tripCommand ≠ second.tripCommand ∨ first.closeCommand ≠ second.closeCommand ∨
    first.faultType ≠ second.faultType ∨ first.protElement ≠ second.protElement ∨
    Ieee.number Ieee.binary32 first.faultCurrent.toNat ≠
      Ieee.number Ieee.binary32 second.faultCurrent.toNat ∨
    Ieee.number Ieee.binary32 first.faultVoltage.toNat ≠
      Ieee.number Ieee.binary32 second.faultVoltage.toNat ∨
    Ieee.number Ieee.binary32 first.frequency.toNat ≠
      Ieee.number Ieee.binary32 second.frequency.toNat

theorem floatDiffers_iff {first second : BitVec 32}
    (number : Ieee.number Ieee.binary32 first.toNat ≠ .nan) :
    floatDiffers first second = true ↔
      Ieee.number Ieee.binary32 second.toNat ≠ Ieee.number Ieee.binary32 first.toNat := by
  rw [floatDiffers, Bool.or_eq_true, decide_eq_true_iff, decide_eq_true_iff]
  constructor
  · rintro (nan | differs)
    · exact absurd nan number
    · exact differs.symm
  · exact fun differs => .inr differs.symm

theorem flag_differs_iff {first second : BitVec 32} (firstPlain : first = 0 ∨ first = 1)
    (secondPlain : second = 0 ∨ second = 1) :
    first ≠ second ↔ decide (second ≠ 0) ≠ decide (first ≠ 0) := by
  rcases firstPlain with rfl | rfl <;> rcases secondPlain with rfl | rfl <;> decide

theorem changed_iff {data prev : GuiData} (plain : data.Plain) (prevPlain : prev.Plain) :
    PublishLoop.changed data prev = true ↔ prev.dataset.Differs data.dataset := by
  simp only [PublishLoop.changed, Bool.or_eq_true, decide_eq_true_iff, or_assoc,
    floatDiffers_iff plain.current, floatDiffers_iff plain.voltage, floatDiffers_iff plain.freq,
    flag_differs_iff plain.trip prevPlain.trip, flag_differs_iff plain.close prevPlain.close,
    Dataset.Differs, GuiData.dataset, ne_comm (a := data.faultType),
    ne_comm (a := data.protElem)]

/-! ### The law -/

namespace Publication

/-- The packet of a publication is the frame of a message with its numbers, time and values. -/
def Sent (srcAddr : MacAddress) (publication : Publication) : Prop :=
  ∃ time, publication.timestamp = UtcTime.setUtcTimeMs time ∧
    publication.packet = some
      (Message.frame ⟨publication.stNum, publication.sqNum, time, publication.dataset⟩ srcAddr)

/-- What the law says of a message and the one after it, sent in a turn at time `now`. -/
structure FollowedBy (first : Publication) (now : Nat) (second : Publication) : Prop where
  stNum : first.stNum ≠ second.stNum ↔ first.dataset.Differs second.dataset
  changed : first.stNum ≠ second.stNum →
    second.sqNum = 0 ∧ second.timestamp = UtcTime.setUtcTimeMs now
  repeated : first.stNum = second.stNum →
    second.timestamp = first.timestamp ∧
      second.sqNum = if first.sqNum = 0xffffffff then 1 else first.sqNum + 1
  sleep : second.sleep = if first.stNum ≠ second.stNum then 4 else 1000

end Publication

namespace PublishLoop

/-- What holds before every turn of the loop. -/
structure Ready (srcAddr : MacAddress) (loop : PublishLoop) : Prop where
  configured : ∃ last : Message, loop.publisher = last.publisher srcAddr ∧ last.stNum ≠ 0
  stateChanged : loop.stateChanged = false
  prev : loop.firstPublish = false → loop.prev.Plain

theorem nextNumber_ne_zero (number : BitVec 32) : nextNumber number ≠ 0 := by
  unfold nextNumber
  split
  · decide
  · assumption

theorem nextNumber_ne_self (number : BitVec 32) : nextNumber number ≠ number := by
  unfold nextNumber
  split <;> bv_omega

theorem nextNumber_eq (number : BitVec 32) :
    nextNumber number = if number = 0xffffffff then 1 else number + 1 := by
  have wraps : number + 1 = 0 ↔ number = 0xffffffff := by
    constructor
    · intro zero
      bv_omega
    · rintro rfl
      rfl
  rw [nextNumber, if_congr wraps rfl rfl]

theorem Ready.start (srcAddr : MacAddress) (now : Nat) :
    (PublishLoop.start srcAddr now).Ready srcAddr where
  configured := ⟨⟨1, 0, now, ⟨false, false, 0, 0, 0, 0, 0⟩⟩, rfl, (by decide : (1 : BitVec 32) ≠ 0)⟩
  stateChanged := rfl
  prev := by intro published; cases published

variable {srcAddr : MacAddress} {self : PublishLoop}

theorem message_stNum_ne_zero {last : Message} (positive : last.stNum ≠ 0) (data : GuiData)
    (now : Nat) : (self.message last data now).stNum ≠ 0 := by
  unfold message
  split
  · exact nextNumber_ne_zero _
  · exact positive

/-- A turn on a content the GUI can produce keeps the loop ready and sends its message. -/
theorem Ready.iterate (ready : self.Ready srcAddr) (file : GuiFile) (now : Nat) :
    (self.iterate ⟨file.content, now⟩).1.Ready srcAddr ∧
      (self.iterate ⟨file.content, now⟩).2.Sent srcAddr ∧
      (self.iterate ⟨file.content, now⟩).2.stNum ≠ 0 := by
  obtain ⟨last, configured, positive⟩ := ready.configured
  have plain := file.plain_readGuiData.protectionLogic
  have sent := @message_stNum_ne_zero self last positive
    (protectionLogic (readGuiData file.content)) now
  rw [PublishLoop.iterate, publishData_eq configured]
  refine ⟨⟨⟨_, rfl, sent⟩, rfl, fun _ => plain⟩, ⟨_, rfl, rfl⟩, sent⟩

/-- The law for two turns in a row: the loop compares with the values it has just published. -/
theorem followedBy_publishData {last : Message}
    (configured : self.publisher = last.publisher srcAddr) {first second : GuiData}
    (firstPlain : first.Plain) (secondPlain : second.Plain) (firstTime secondTime : Nat) :
    let turn := self.publishData first firstTime
    turn.2.FollowedBy secondTime (turn.1.publishData second secondTime).2 := by
  have detected := changed_iff secondPlain firstPlain
  rw [← self.message_dataset last first firstTime] at detected
  rw [publishData_eq configured]
  generalize self.message last first firstTime = sent at detected ⊢
  dsimp only
  rw [publishData_eq rfl]
  cases change : changed second first with
  | true =>
    have differs := detected.mp change
    have moved := (nextNumber_ne_self sent.stNum).symm
    simp only [message, PublishLoop.change, change, Bool.not_false, Bool.and_self, Bool.true_or,
      if_true]
    exact ⟨⟨fun _ => differs, fun _ => moved⟩, fun _ => ⟨rfl, rfl⟩,
      fun same => absurd same moved, (if_pos moved).symm⟩
  | false =>
    have same : ¬ sent.dataset.Differs second.dataset := by
      intro differs
      rw [detected.mpr differs] at change
      cases change
    simp only [message, PublishLoop.change, change, Bool.and_false, Bool.or_self, if_false,
      Bool.false_eq_true]
    exact ⟨⟨fun moved => absurd rfl moved, fun differs => absurd differs same⟩,
      fun moved => absurd rfl moved, fun _ => ⟨rfl, nextNumber_eq _⟩,
      (if_neg (not_not.mpr rfl)).symm⟩

end PublishLoop

/-- The turns of a run on contents the GUI can produce. -/
def guiTurns (files : List (GuiFile × Nat)) : List PublishLoop.Turn :=
  files.map fun file => ⟨file.1.content, file.2⟩

theorem ready_final (srcAddr : MacAddress) (startTime : Nat) (files : List (GuiFile × Nat)) :
    (Machine.final PublishLoop.iterate (PublishLoop.start srcAddr startTime)
      (guiTurns files)).Ready srcAddr := by
  induction files using List.reverseRecOn with
  | nil => exact PublishLoop.Ready.start srcAddr startTime
  | append_singleton files file inductionHypothesis =>
    rw [guiTurns, List.map_append, Machine.final_append]
    exact (inductionHypothesis.iterate file.1 file.2).1

/-- The loop before the turn with some index. -/
def loopBefore (srcAddr : MacAddress) (startTime : Nat) (files : List (GuiFile × Nat))
    (index : Nat) : PublishLoop :=
  Machine.final PublishLoop.iterate (PublishLoop.start srcAddr startTime)
    (guiTurns (files.take index))

section Run

variable {srcAddr : MacAddress} {startTime : Nat} {files : List (GuiFile × Nat)} {index : Nat}

theorem publication_at {publication : Publication}
    (found : (Machine.outputs PublishLoop.iterate (PublishLoop.start srcAddr startTime)
      (guiTurns files))[index]? = some publication) :
    ∃ file now, files[index]? = some (file, now) ∧
      publication =
        ((loopBefore srcAddr startTime files index).iterate ⟨file.content, now⟩).2 := by
  rw [Machine.getElem?_outputs, guiTurns, List.getElem?_map, Option.map_map,
    Option.map_eq_some_iff] at found
  obtain ⟨⟨file, now⟩, atIndex, equal⟩ := found
  refine ⟨file, now, atIndex, ?_⟩
  rw [← equal, loopBefore, guiTurns, List.map_take]
  rfl

theorem loopBefore_succ {file : GuiFile} {now : Nat} (found : files[index]? = some (file, now)) :
    loopBefore srcAddr startTime files (index + 1) =
      ((loopBefore srcAddr startTime files index).iterate ⟨file.content, now⟩).1 := by
  have turn : (guiTurns files)[index]? = some ⟨file.content, now⟩ := by
    rw [guiTurns, List.getElem?_map, found]
    rfl
  rw [loopBefore, loopBefore, guiTurns, guiTurns, List.map_take, List.map_take, ← guiTurns]
  exact Machine.final_take_succ _ _ turn

end Run

/-- Over every run on contents the GUI can produce: every publication is sent and has a state
number that is not zero; the first carries `1` and `0` and is followed by the long sleep; and
every message and the next one follow the law. -/
theorem publisher_numbering_law (srcAddr : MacAddress) (startTime : Nat)
    (files : List (GuiFile × Nat)) :
    let publications := Machine.outputs PublishLoop.iterate
      (PublishLoop.start srcAddr startTime) (guiTurns files)
    (∀ publication ∈ publications, publication.Sent srcAddr ∧ publication.stNum ≠ 0) ∧
      (∀ first ∈ publications.head?,
        first.stNum = 1 ∧ first.sqNum = 0 ∧ first.sleep = 1000) ∧
      ∀ index first second, publications[index]? = some first →
        publications[index + 1]? = some second →
        ∃ file now, files[index + 1]? = some (file, now) ∧ first.FollowedBy now second := by
  intro publications
  refine ⟨?_, ?_, ?_⟩
  · intro publication member
    obtain ⟨index, found⟩ := List.mem_iff_getElem?.mp member
    obtain ⟨file, now, -, rfl⟩ := publication_at found
    exact ((ready_final srcAddr startTime (files.take index)).iterate file now).2
  · intro first member
    rw [List.head?_eq_getElem?, Option.mem_def] at member
    obtain ⟨file, now, -, rfl⟩ := publication_at member
    have begins : (PublishLoop.start srcAddr startTime).publisher =
        Message.publisher ⟨1, 0, startTime, ⟨false, false, 0, 0, 0, 0, 0⟩⟩ srcAddr := rfl
    rw [loopBefore, List.take_zero, guiTurns, List.map_nil, Machine.final, PublishLoop.iterate,
      PublishLoop.publishData_eq begins]
    exact ⟨rfl, rfl, rfl⟩
  · intro index first second atFirst atSecond
    obtain ⟨firstFile, firstTime, firstAt, rfl⟩ := publication_at atFirst
    obtain ⟨secondFile, secondTime, secondAt, rfl⟩ := publication_at atSecond
    refine ⟨secondFile, secondTime, secondAt, ?_⟩
    obtain ⟨last, configured, -⟩ := (ready_final srcAddr startTime (files.take index)).configured
    rw [loopBefore_succ firstAt]
    exact PublishLoop.followedBy_publishData configured
      firstFile.plain_readGuiData.protectionLogic secondFile.plain_readGuiData.protectionLogic _ _

end Substation
