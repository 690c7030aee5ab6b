/-
This file follows one record of the protection GUI through the four programs: the
publisher reads and judges it and sends a frame, the subscriber program writes the
line of its values, and the breaker GUI polls the line and applies it.

The main result is the protection function from end to end: a record that is out of
range opens the breaker, one that is not closes it when it says so, and the display
shows what the publisher has computed.
-/

import Substation.BreakerSystem
import Substation.Recovery
import Substation.Thresholds

namespace Substation

open Decimal

/-! ### What the display shows of some values -/

/-- The label of a fault type. -/
def faultLabelOf (faultType : BitVec 32) : FaultLabel :=
  if faultType = 0 then .noFault
  else if faultType = 1 then .overcurrent
  else if faultType = 2 then .differential
  else if faultType = 3 then .distance
  else .unknown

theorem printInteger_toInt_eq_iff (first second : BitVec 32) :
    printInteger first.toInt = printInteger second.toInt ↔ first = second :=
  ⟨fun equal => BitVec.eq_of_toInt_eq (printInteger_injective equal), fun equal => by rw [equal]⟩

theorem faultLabel_printInteger (faultType : BitVec 32) :
    faultLabel (printInteger faultType.toInt) = faultLabelOf faultType := by
  have digit (text : Text) (number : BitVec 32) (same : text = printInteger number.toInt) :
      printInteger faultType.toInt = text ↔ faultType = number := by
    rw [same, printInteger_toInt_eq_iff]
  simp only [faultLabel, faultLabelOf, digit ['0'] 0 (by decide), digit ['1'] 1 (by decide),
    digit ['2'] 2 (by decide), digit ['3'] 3 (by decide)]

theorem commandStatus_flagText (flag : Bool) :
    commandStatus (flagText flag) = .active ↔ flag = true := by
  cases flag <;> decide

/-- The display after a line, whether it is new or the one accepted last: the poll and the drain
show its values and move the breaker from where the queue would have put it. -/
theorem display_sharedLine {breaker : BreakerIed} (settled : breaker.Settled)
    (dataset : Dataset) :
    (breaker.runSubscriber (.content (sharedLine dataset))).1.processQueue.display =
      breaker.pending.apply dataset.record := by
  rw [BreakerIed.display_processQueue, (settled.runSubscriber _).2, BreakerDisplay.read,
    ofPayload_sharedLine]

theorem settled_final (events : List BreakerIed.Event) :
    (Machine.final BreakerIed.step .start events).Settled := by
  refine Machine.final_invariant BreakerIed.step BreakerIed.Settled ?_ BreakerIed.start_settled
    events
  intro breaker event settled
  cases event with
  | poll outcome => exact (settled.runSubscriber outcome).1
  | drain => exact settled

/-! ### From the record to the display -/

/-- One turn of the publisher on the record of some settings sends a frame of its message. -/
theorem iterate_record {loop : PublishLoop} {srcAddr : MacAddress} {last : Message}
    (configured : loop.publisher = last.publisher srcAddr) (settings : SliderSettings)
    (now : Nat) :
    ∃ message : Message,
      message.dataset = (protectionLogic settings.record.data).dataset ∧
      (loop.iterate ⟨some settings.record.line, now⟩).2.dataset = message.dataset ∧
      (loop.iterate ⟨some settings.record.line, now⟩).2.packet = some (message.frame srcAddr) := by
  have turn := PublishLoop.publishData_eq configured (protectionLogic settings.record.data) now
  refine ⟨_, loop.message_dataset last _ now, ?_, ?_⟩
  · rw [PublishLoop.iterate, readGuiData_line, turn]
  · rw [PublishLoop.iterate, readGuiData_line, turn]

/-- Whatever frames of the publisher have arrived since the start, the subscriber program takes
the next one. -/
theorem receptive_reach {buffer : List UInt8} {file : Option Text} {history : List Reception}
    {program : SubscriberProgram}
    (reached : Machine.reach SubscriberProgram.step (.start buffer file) history =
      some program)
    (genuine : ∀ reception ∈ history, ∃ message : Message, ∃ srcAddr : MacAddress,
      Arrives (message.frame srcAddr) reception.frame) :
    program.subscriber.Receptive := by
  have first : (SubscriberProgram.start buffer file).subscriber.Expecting := .inl rfl
  obtain ⟨last, arrived, expecting⟩ := expecting_reach first genuine
  rw [reached, Option.some.injEq] at arrived
  rw [arrived]
  exact expecting.receptive

/-- For every record of the sliders, every state of the publisher loop, every state the
subscriber program can be in that takes messages of the publisher, and every state of the breaker
GUI: the turn of the publisher sends a packet, and when it is received, written, polled and drained,
the breaker is opened if the record is out of range, closed if it is not and says so, and else left
as it was, and the display shows the commands, the fault and the element that the publisher has
computed. -/
theorem protection_function_end_to_end (settings : SliderSettings) (srcAddr : MacAddress)
    (loop : PublishLoop) (last : Message) (configured : loop.publisher = last.publisher srcAddr)
    (now : Nat) (buffer : List UInt8) (file : Option Text) (history : List Reception)
    (program : SubscriberProgram)
    (reached : Machine.reach SubscriberProgram.step (.start buffer file) history =
      some program)
    (receptive : program.subscriber.Receptive) (events : List BreakerIed.Event) :
    let publication := (loop.iterate ⟨some settings.record.line, now⟩).2
    let breaker := Machine.final BreakerIed.step .start events
    ∃ packet, publication.packet = some packet ∧
      ∀ reception : Reception, Arrives packet reception.frame →
        ∃ after call, program.step reception = some (after, some call) ∧
          let shown := (breaker.runSubscriber (.ofFile after.file)).1.processQueue.display
          shown.breakerStatus =
              (if settings.Tripping then .opened
                else if settings.close then .closed
                else breaker.pending.breakerStatus) ∧
            (shown.tripStatus = .active ↔ settings.Tripping) ∧
            (shown.closeStatus = .active ↔ settings.close = true) ∧
            shown.faultType = faultLabelOf publication.dataset.faultType ∧
            shown.protElement = printInteger publication.dataset.protElement.toInt := by
  intro publication breaker
  obtain ⟨message, computed, published, packet⟩ := iterate_record configured settings now
  refine ⟨_, packet, fun reception arrives => ?_⟩
  obtain ⟨after, call, stepped, written⟩ :=
    step_receptive (roomyData_reach reached) receptive arrives
  have trip : message.dataset.tripCommand = true ↔ settings.Tripping := by
    rw [computed]
    exact tripCommand_record settings
  have close : message.dataset.closeCommand = true ↔ settings.close = true := by
    have flag : flagWord settings.close ≠ 0 ↔ settings.close = true := by
      cases settings.close <;> decide
    rw [computed, closeCommand_protectionLogic, decide_eq_true_iff]
    exact flag
  refine ⟨after, call, stepped, ?_⟩
  rw [written, PollOutcome.ofFile, display_sharedLine (settled_final events)]
  refine ⟨?_, ?_, ?_, ?_, ?_⟩
  · show message.dataset.record.operate breaker.pending.breakerStatus = _
    rw [Dataset.operate_record, Dataset.operate]
    simp only [trip, close]
  · exact (commandStatus_flagText _).trans trip
  · exact (commandStatus_flagText _).trans close
  · rw [published]
    exact faultLabel_printInteger _
  · rw [published]
    rfl

/-- A current of 4000 A in a first record with the close flag set, after the breaker was closed. -/
theorem overcurrent_opens_closed_breaker :
    let settings : SliderSettings :=
      ⟨false, true, 0, 40000, 105, ⟨500, by decide, by decide⟩⟩
    let srcAddr : MacAddress := ⟨[2, 0, 0, 0, 0, 1], rfl⟩
    let turn := (PublishLoop.start srcAddr 1000).iterate ⟨some settings.record.line, 2000⟩
    let message : Message := ⟨1, 0, 1000, (protectionLogic settings.record.data).dataset⟩
    let breaker := Machine.final BreakerIed.step .start
      [.poll (.content "0,1,0,50,0.0,10500,50.0".toList), .drain]
    breaker.display.breakerStatus = .closed ∧
      ∃ after call, (SubscriberProgram.start [] none).step
          ⟨message.frame srcAddr, 2000, 2000, false, false⟩ = some (after, some call) ∧
        let shown := (breaker.runSubscriber (.ofFile after.file)).1.processQueue.display
        shown.breakerStatus = .opened ∧ shown.tripStatus = .active ∧
          shown.closeStatus = .active ∧
          shown.faultType = faultLabelOf turn.2.dataset.faultType ∧
          shown.protElement = printInteger turn.2.dataset.protElement.toInt := by
  intro settings srcAddr turn message breaker
  have configured : (PublishLoop.start srcAddr 1000).publisher =
      Message.publisher ⟨1, 0, 1000, (readGuiData none).dataset⟩ srcAddr := rfl
  have packet : turn.2.packet = some (message.frame srcAddr) := by
    show ((PublishLoop.start srcAddr 1000).publishData
      (protectionLogic (readGuiData (some settings.record.line))) 2000).2.packet = _
    rw [readGuiData_line, PublishLoop.publishData_eq configured]
    rfl
  have tripping : settings.Tripping := .inr (.inr (.inl (by decide +kernel)))
  have started : Machine.reach SubscriberProgram.step (.start [] none) [] =
      some (.start [] none) := rfl
  have empty := receptive_reach started (List.forall_mem_nil _)
  obtain ⟨octets, sent, effect⟩ :=
    protection_function_end_to_end settings srcAddr _ _ configured 2000 [] none [] _ started empty
      [.poll (.content "0,1,0,50,0.0,10500,50.0".toList), .drain]
  obtain rfl : octets = message.frame srcAddr := Option.some.inj (sent.symm.trans packet)
  obtain ⟨after, call, stepped, position, trip, close, fault, element⟩ :=
    effect ⟨message.frame srcAddr, 2000, 2000, false, false⟩ (.inl rfl)
  rw [if_pos tripping] at position
  exact ⟨by decide +kernel, after, call, stepped, position, trip.mpr tripping, close.mpr rfl,
    fault, element⟩

end Substation
