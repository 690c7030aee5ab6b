/-
This file is the breaker side as a system of three loops: the listener that
replaces the shared file, the poller and the drain of the queue. The file holds one
message, so a message that is replaced before a poll is never seen.

The main result is that when everything is polled and drained, the position of the
breaker is the one that the messages found by a poll lead to, each once and in
order, the last message among them.
-/

import Substation.BreakerGui
import Substation.Subscriber

namespace Substation

open Decimal

/-! ### What the GUI makes of a shared line -/

/-- The fields of a line as the GUI splits them. -/
def Dataset.record (dataset : Dataset) : GooseRecord where
  trip := flagText dataset.tripCommand
  close := flagText dataset.closeCommand
  faultType := printInteger dataset.faultType.toInt
  protElement := printInteger dataset.protElement.toInt
  current := printFixed Ieee.binary32 1 dataset.faultCurrent.toNat
  voltage := printFixed Ieee.binary32 0 dataset.faultVoltage.toNat
  frequency := (printFixed Ieee.binary32 1 dataset.frequency.toNat).take
    (127 - (lineStart dataset).length)

theorem isPythonSpace_of_isDigit {character : Char} (digit : character.isDigit = true) :
    isPythonSpace character = false := by
  have code : 48 ≤ character.toNat ∧ character.toNat ≤ 57 := by
    rw [Char.isDigit, Bool.and_eq_true, decide_eq_true_iff, decide_eq_true_iff] at digit
    exact digit
  simp only [isPythonSpace, Bool.or_eq_false_iff, Bool.and_eq_false_iff, decide_eq_false_iff_not]
  omega

theorem strip_eq_self {text : Text}
    (solid : ∀ character ∈ text, isPythonSpace character = false) : strip text = text := by
  have front : text.dropWhile isPythonSpace = text := by
    rw [List.dropWhile_eq_self_iff]
    intro nonempty
    rw [solid _ (List.getElem_mem nonempty)]
    exact Bool.false_ne_true
  rw [strip, front, List.rdropWhile_eq_self_iff]
  intro nonempty
  rw [solid _ (List.getLast_mem nonempty)]
  exact Bool.false_ne_true

theorem strip_sharedLine (dataset : Dataset) : strip (sharedLine dataset) = sharedLine dataset := by
  have marks : ['-', '.', 'n', 'a', 'i', 'f'].all (!isPythonSpace ·) = true := by decide
  refine strip_eq_self fun character member => ?_
  rcases mem_intercalate (List.mem_of_mem_take member) with comma | ⟨field, inFields, inField⟩
  · rw [comma]
    decide
  · rcases mem_sharedFields dataset field inFields character inField with mark | digit
    · exact Bool.not_eq_true' _ ▸ List.all_eq_true.mp marks character mark
    · exact isPythonSpace_of_isDigit digit

theorem ofPayload_sharedLine (dataset : Dataset) :
    GooseRecord.ofPayload (strip (sharedLine dataset)) = some dataset.record := by
  rw [strip_sharedLine, GooseRecord.ofPayload, splitOn_sharedLine]
  rfl

/-- The rule of the breaker on the values of a message. -/
def Dataset.operate (dataset : Dataset) (position : BreakerPosition) : BreakerPosition :=
  if dataset.tripCommand then .opened
  else if dataset.closeCommand then .closed
  else position

theorem flagText_eq_one_iff (flag : Bool) : flagText flag = ['1'] ↔ flag = true := by
  cases flag <;> decide

theorem Dataset.operate_record (dataset : Dataset) (position : BreakerPosition) :
    dataset.record.operate position = dataset.operate position := by
  simp only [GooseRecord.operate, Dataset.record, flagText_eq_one_iff, Dataset.operate]

/-! ### The three loops -/

structure BreakerSystem where
  /-- The content of `/tmp/goose_data.txt`. -/
  file : Option Text
  breaker : BreakerIed

namespace BreakerSystem

inductive Event
  /-- The listener handles a message of seven values and replaces the file. -/
  | message (dataset : Dataset)
  | poll
  | drain

def step (self : BreakerSystem) : Event → BreakerSystem × Option Notice
  | .message dataset => ({ self with file := some (sharedLine dataset) }, none)
  | .poll =>
    let turn := self.breaker.runSubscriber (.ofFile self.file)
    ({ self with breaker := turn.1 }, turn.2)
  | .drain => ({ self with breaker := self.breaker.processQueue }, none)

/-- The line that `start_breaker.sh` writes. -/
def initialLine : Text := "0,0,0,50,0.0,0,49.8\n".toList

/-- Before the first message, with the breaker in some position. -/
def start (position : BreakerPosition) : BreakerSystem where
  file := some initialLine
  breaker := { BreakerIed.start with
    display := { BreakerDisplay.start with breakerStatus := position } }

/-- The messages of a run. -/
def messages : List Event → List Dataset
  | [] => []
  | .message dataset :: events => dataset :: messages events
  | .poll :: events => messages events
  | .drain :: events => messages events

/-- The message that no poll has found yet, given the one before the events. -/
def unread : Option Dataset → List Event → Option Dataset
  | waiting, [] => waiting
  | _, .message dataset :: events => unread (some dataset) events
  | _, .poll :: events => unread none events
  | waiting, .drain :: events => unread waiting events

/-- The messages that a poll finds before the next one replaces them. -/
def sampled : Option Dataset → List Event → List Dataset
  | _, [] => []
  | _, .message dataset :: events => sampled (some dataset) events
  | waiting, .poll :: events => waiting.toList ++ sampled none events
  | waiting, .drain :: events => sampled waiting events

/-- A poll has happened since the last message, and the queue is drained. -/
structure Quiescent (position : BreakerPosition) (events : List Event) : Prop where
  polled : unread none events = none
  drained : (Machine.final step (start position) events).breaker.dataQueue = []

/-! ### The position follows the messages found -/

/-- The position with the queue applied, and what the file holds: the message that waits for a
poll, or a line that would change nothing. -/
structure Tracks (system : BreakerSystem) (waiting : Option Dataset)
    (position : BreakerPosition) : Prop where
  settled : system.breaker.Settled
  pending : system.breaker.pending.breakerStatus = position
  fresh : ∀ dataset, waiting = some dataset → system.file = some (sharedLine dataset)
  stale : waiting = none → ∃ text record, system.file = some text ∧
    GooseRecord.ofPayload (strip text) = some record ∧ record.operate position = position

theorem tracks_start (position : BreakerPosition) : (start position).Tracks none position where
  settled := by
    intro payload accepted
    cases accepted
  pending := rfl
  fresh := by
    intro dataset waiting
    cases waiting
  stale := fun _ => ⟨initialLine,
    ⟨['0'], ['0'], ['0'], "50".toList, "0.0".toList, ['0'], "49.8".toList⟩, rfl,
    by decide +kernel, rfl⟩

variable {self : BreakerSystem} {waiting : Option Dataset} {position : BreakerPosition}

theorem breakerStatus_poll (settled : self.breaker.Settled) {text : Text} {record : GooseRecord}
    (file : self.file = some text)
    (isRecord : GooseRecord.ofPayload (strip text) = some record) :
    (self.step .poll).1.breaker.Settled ∧
      (self.step .poll).1.breaker.pending.breakerStatus =
        record.operate self.breaker.pending.breakerStatus := by
  obtain ⟨still, read⟩ := settled.runSubscriber (.content text)
  rw [step, file]
  refine ⟨still, ?_⟩
  show (self.breaker.runSubscriber (.content text)).1.pending.breakerStatus = _
  rw [read, BreakerDisplay.read, isRecord]
  rfl

theorem Tracks.poll (tracks : self.Tracks waiting position) :
    (self.step .poll).1.Tracks none
      (waiting.toList.foldl (fun position dataset => dataset.operate position) position) := by
  cases waiting with
  | none =>
    obtain ⟨text, record, file, isRecord, unchanged⟩ := tracks.stale rfl
    obtain ⟨settled, moved⟩ := breakerStatus_poll tracks.settled file isRecord
    refine ⟨settled, ?_, nofun,
      fun _ => ⟨text, record, file, isRecord, unchanged⟩⟩
    rw [moved, tracks.pending]
    exact unchanged
  | some dataset =>
    have file := tracks.fresh dataset rfl
    obtain ⟨settled, moved⟩ :=
      breakerStatus_poll tracks.settled file (ofPayload_sharedLine dataset)
    refine ⟨settled, ?_, nofun, fun _ =>
      ⟨sharedLine dataset, dataset.record, file, ofPayload_sharedLine dataset, ?_⟩⟩
    · rw [moved, tracks.pending, Dataset.operate_record]
      rfl
    · show dataset.record.operate (dataset.operate position) = dataset.operate position
      rw [← Dataset.operate_record, GooseRecord.operate_operate]

/-- Induction on the events, for any system that is tracked. -/
theorem Tracks.final (tracks : self.Tracks waiting position) (events : List Event) :
    (Machine.final step self events).breaker.pending.breakerStatus =
      (sampled waiting events).foldl (fun position dataset => dataset.operate position)
        position := by
  induction events generalizing self waiting position with
  | nil => exact tracks.pending
  | cons event events inductionHypothesis =>
    rw [Machine.final]
    cases event with
    | message dataset =>
      refine inductionHypothesis ⟨tracks.settled, tracks.pending, ?_, ?_⟩
      · intro other same
        rw [← Option.some.inj same]
        rfl
      · intro impossible
        cases impossible
    | poll =>
      rw [sampled, List.foldl_append]
      exact inductionHypothesis tracks.poll
    | drain =>
      exact inductionHypothesis ⟨tracks.settled, tracks.pending, tracks.fresh, tracks.stale⟩

theorem sampled_sublist (waiting : Option Dataset) (events : List Event) :
    (sampled waiting events).Sublist (waiting.toList ++ messages events) := by
  induction events generalizing waiting with
  | nil => exact List.nil_sublist _
  | cons event events inductionHypothesis =>
    cases event with
    | message dataset =>
      exact (inductionHypothesis (some dataset)).trans (List.sublist_append_right _ _)
    | poll => exact (inductionHypothesis none).append_left waiting.toList
    | drain => exact inductionHypothesis waiting

/-- The last message is found, or still waits. -/
theorem getLast?_sampled (waiting : Option Dataset) (events : List Event) :
    (sampled waiting events ++ (unread waiting events).toList).getLast? =
      (waiting.toList ++ messages events).getLast? := by
  induction events generalizing waiting with
  | nil => rw [sampled, unread, messages, List.nil_append, List.append_nil]
  | cons event events inductionHypothesis =>
    cases event with
    | message dataset =>
      rw [sampled, unread, messages, inductionHypothesis,
        List.getLast?_append_of_ne_nil _ (List.cons_ne_nil _ _)]
      rfl
    | poll =>
      rw [sampled, unread, messages, List.append_assoc, List.getLast?_append,
        inductionHypothesis, Option.toList_none, List.nil_append, List.getLast?_append]
    | drain => exact inductionHypothesis waiting

/-- Whenever the system is quiescent, the position of the breaker is the one that the messages
found by a poll lead to. They are a part of the messages received, in order, and the last message
received is the last of them. -/
theorem position_follows_sampled_messages (position : BreakerPosition) (events : List Event)
    (quiescent : Quiescent position events) :
    (Machine.final step (start position) events).breaker.display.breakerStatus =
        (sampled none events).foldl (fun position dataset => dataset.operate position) position ∧
      (sampled none events).Sublist (messages events) ∧
      (sampled none events).getLast? = (messages events).getLast? := by
  refine ⟨?_, sampled_sublist none events, ?_⟩
  · have pending := (tracks_start position).final events
    rwa [BreakerIed.pending, quiescent.drained] at pending
  · have last := getLast?_sampled none events
    rw [quiescent.polled] at last
    simpa using last

/-- Values with a command and nothing else. -/
def command (trip close : Bool) : Dataset := ⟨trip, close, 0, 50, 0, 0, 0⟩

/-- A close, found by a poll, and then a trip that the next message replaces before a poll. -/
def replacedTrip : List Event :=
  [.message (command false true), .poll, .drain, .message (command true false),
    .message (command false false), .poll, .drain]

theorem quiescent_replacedTrip : Quiescent .opened replacedTrip where
  polled := rfl
  drained := rfl

/-- The last message of the run is found, and the breaker stays where the close has put it. -/
theorem position_after_replaced_trip :
    (Machine.final step (start .opened) replacedTrip).breaker.display.breakerStatus =
        (sampled none replacedTrip).foldl (fun position dataset => dataset.operate position)
          .opened ∧
      (sampled none replacedTrip).Sublist (messages replacedTrip) ∧
      (sampled none replacedTrip).getLast? = (messages replacedTrip).getLast? :=
  position_follows_sampled_messages .opened replacedTrip quiescent_replacedTrip

/-- The trip is lost: applied in order, the messages open the breaker, and it stays closed. -/
theorem replaced_trip_is_lost :
    Quiescent .opened replacedTrip ∧
      (Machine.final step (start .opened) replacedTrip).breaker.display.breakerStatus ≠
        (messages replacedTrip).foldl (fun position dataset => dataset.operate position)
          .opened := by
  refine ⟨quiescent_replacedTrip, ?_⟩
  decide +kernel

end BreakerSystem

end Substation
