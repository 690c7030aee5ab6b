/-
This file embeds `breaker_gui.py`: the thread that polls the shared file, the
queue, and the display with the position of the breaker. The time of the last
update is left out.

The main result is that neither the queue nor the check against the last payload
can be seen: after a drain, the display is that of a reader which applies every
payload of seven fields as soon as it is polled.
-/

import Mathlib.Data.List.DropRight
import Substation.Lib.Decimal
import Substation.Lib.Machine

namespace Substation

open Decimal

/-! ### The texts of Python -/

/-- The white space that `str.strip` takes away. -/
def isPythonSpace (character : Char) : Bool :=
  let code := character.toNat
  (9 ≤ code && code ≤ 13) || (28 ≤ code && code ≤ 32) || code = 0x85 || code = 0xa0 ||
    code = 0x1680 || (0x2000 ≤ code && code ≤ 0x200a) || code = 0x2028 || code = 0x2029 ||
    code = 0x202f || code = 0x205f || code = 0x3000

def strip (text : Text) : Text := (text.dropWhile isPythonSpace).rdropWhile isPythonSpace

/-- A numeral without its underscores. Each has to stand between two digits. -/
def dropUnderscores : Bool → Text → Option Text
  | _, [] => some []
  | afterDigit, character :: rest =>
    if character = '_' then
      if afterDigit && (rest.head?.any Char.isDigit) then dropUnderscores false rest else none
    else (dropUnderscores character.isDigit rest).map (character :: ·)

/-- `float(text)`, as a bit pattern of double precision. -/
def pythonFloat (text : Text) : Option ℕ :=
  (dropUnderscores false (strip text)).bind fun numeral =>
    let signed := scanSign numeral
    let word := signed.2.map Char.toLower
    if word = "inf".toList ∨ word = "infinity".toList then
      some (Ieee.binary64.withSign signed.1 Ieee.binary64.infinity)
    else if word = "nan".toList then
      some (Ieee.binary64.withSign signed.1 (Ieee.binary64.infinity + 2 ^ 51))
    else
      match scanDecimal false numeral with
      | some (negative, magnitude, []) => some (Ieee.ofRat Ieee.binary64 negative magnitude)
      | _ => none

/-- `f"{value:.1f}"`, which prints no sign of a `NaN`. -/
def pythonFixed (bits : ℕ) : Text :=
  if Ieee.IsNan Ieee.binary64 bits then "nan".toList else printFixed Ieee.binary64 1 bits

/-! ### The display -/

inductive CommandStatus
  | active
  | inactive
  deriving DecidableEq, Repr

inductive FaultLabel
  | noFault
  | overcurrent
  | differential
  | distance
  | unknown
  deriving DecidableEq, Repr

inductive BreakerPosition
  | opened
  | closed
  deriving DecidableEq, Repr

/-- The first seven fields of a payload. -/
structure GooseRecord where
  trip : Text
  close : Text
  faultType : Text
  protElement : Text
  current : Text
  voltage : Text
  frequency : Text
  deriving DecidableEq, Repr

/-- `payload.split(',')`, when there are at least seven fields. -/
def GooseRecord.ofPayload (payload : Text) : Option GooseRecord :=
  match payload.splitOn ',' with
  | trip :: close :: faultType :: protElement :: current :: voltage :: frequency :: _ =>
    some ⟨trip, close, faultType, protElement, current, voltage, frequency⟩
  | _ => none

def commandStatus (field : Text) : CommandStatus :=
  if field = ['1'] then .active else .inactive

def faultLabel (field : Text) : FaultLabel :=
  if field = ['0'] then .noFault
  else if field = ['1'] then .overcurrent
  else if field = ['2'] then .differential
  else if field = ['3'] then .distance
  else .unknown

/-- A trip opens the breaker, whatever the close command says. -/
def GooseRecord.operate (record : GooseRecord) (position : BreakerPosition) : BreakerPosition :=
  if record.trip = ['1'] then .opened
  else if record.close = ['1'] then .closed
  else position

structure BreakerDisplay where
  tripStatus : CommandStatus
  closeStatus : CommandStatus
  faultType : FaultLabel
  protElement : Text
  current : Text
  voltage : Text
  frequency : Text
  breakerStatus : BreakerPosition
  deriving DecidableEq, Repr

namespace BreakerDisplay

def start : BreakerDisplay where
  tripStatus := .inactive
  closeStatus := .inactive
  faultType := .unknown
  protElement := "--".toList
  current := "0.0 A".toList
  voltage := "0 V".toList
  frequency := "0.0 Hz".toList
  breakerStatus := .opened

/-- What `process_queue` does with one record. -/
def apply (self : BreakerDisplay) (record : GooseRecord) : BreakerDisplay where
  tripStatus := commandStatus record.trip
  closeStatus := commandStatus record.close
  faultType := faultLabel record.faultType
  protElement := record.protElement
  current := record.current ++ " A".toList
  voltage := record.voltage ++ " V".toList
  frequency := pythonFixed ((pythonFloat record.frequency).getD 0) ++ " Hz".toList
  breakerStatus := record.operate self.breakerStatus

end BreakerDisplay

/-! ### The poller and the queue -/

/-- What reading the file gives. -/
inductive PollOutcome
  | missing
  | permissionDenied
  /-- Any other exception, as for octets that are not a text. -/
  | failed
  | content (text : Text)

/-- The file as it is found when nothing stands in the way. -/
def PollOutcome.ofFile : Option Text → PollOutcome
  | none => .missing
  | some text => .content text

/-- What the poller prints about its access to the file. -/
inductive Notice
  | regainedAccess
  | permissionDenied
  deriving DecidableEq, Repr

structure BreakerIed where
  display : BreakerDisplay
  dataQueue : List GooseRecord
  lastPayload : Option Text
  permissionWarning : Bool

namespace BreakerIed

def start : BreakerIed where
  display := .start
  dataQueue := []
  lastPayload := none
  permissionWarning := false

/-- The part of a turn after a successful read. -/
def accept (self : BreakerIed) (payload : Text) : BreakerIed :=
  if payload = [] then self
  else if some payload = self.lastPayload then self
  else
    match GooseRecord.ofPayload payload with
    | none => self
    | some record =>
      { self with lastPayload := some payload, dataQueue := self.dataQueue ++ [record] }

/-- One turn of the loop of `run_subscriber`. -/
def runSubscriber (self : BreakerIed) : PollOutcome → BreakerIed × Option Notice
  | .missing => (self, none)
  | .permissionDenied =>
    if self.permissionWarning then (self, none)
    else ({ self with permissionWarning := true }, some .permissionDenied)
  | .failed => (self, none)
  | .content text =>
    (({ self with permissionWarning := false } : BreakerIed).accept (strip text),
      if self.permissionWarning then some .regainedAccess else none)

/-- `process_queue`: the queue is emptied, one record after another. -/
def processQueue (self : BreakerIed) : BreakerIed :=
  { self with display := self.dataQueue.foldl BreakerDisplay.apply self.display, dataQueue := [] }

inductive Event
  | poll (outcome : PollOutcome)
  | drain

def step (self : BreakerIed) : Event → BreakerIed × Option Notice
  | .poll outcome => self.runSubscriber outcome
  | .drain => (self.processQueue, none)

end BreakerIed

/-! ### The plain reader -/

namespace BreakerDisplay

/-- A reader without memory and without a queue. -/
def read (self : BreakerDisplay) : PollOutcome → BreakerDisplay
  | .content text =>
    match GooseRecord.ofPayload (strip text) with
    | none => self
    | some record => self.apply record
  | _ => self

/-- The plain reader in the place of the two threads. -/
def plainStep (self : BreakerDisplay) : BreakerIed.Event → BreakerDisplay × Unit
  | .poll outcome => (self.read outcome, ())
  | .drain => (self, ())

end BreakerDisplay

/-! ### The poller refines the plain reader -/

/-- Applying a record again changes nothing. -/
theorem GooseRecord.operate_operate (record : GooseRecord) (position : BreakerPosition) :
    record.operate (record.operate position) = record.operate position := by
  unfold operate
  split_ifs <;> rfl

theorem BreakerDisplay.apply_apply (display : BreakerDisplay) (record : GooseRecord) :
    (display.apply record).apply record = display.apply record := by
  simp only [apply, GooseRecord.operate_operate]

namespace BreakerIed

/-- The display once everything in the queue is applied. -/
def pending (self : BreakerIed) : BreakerDisplay :=
  self.dataQueue.foldl BreakerDisplay.apply self.display

/-- The last payload accepted is a record, and the display with the queue applied is one that this
record leaves as it is. -/
def Settled (self : BreakerIed) : Prop :=
  ∀ payload, self.lastPayload = some payload →
    ∃ record, GooseRecord.ofPayload payload = some record ∧
      self.pending.apply record = self.pending

theorem pending_append (self : BreakerIed) (payload : Text) (record : GooseRecord) :
    ({ self with
      lastPayload := some payload
      dataQueue := self.dataQueue ++ [record] } : BreakerIed).pending =
      self.pending.apply record := by
  rw [pending, List.foldl_append]
  rfl

theorem ofPayload_nil : GooseRecord.ofPayload [] = none := rfl

/-- An accepted payload is applied in the end, and one that is skipped would change nothing. -/
theorem Settled.accept {self : BreakerIed} (settled : self.Settled) (payload : Text) :
    (self.accept payload).Settled ∧
      (self.accept payload).pending =
        match GooseRecord.ofPayload payload with
        | none => self.pending
        | some record => self.pending.apply record := by
  unfold BreakerIed.accept
  split_ifs with empty same
  · rw [empty, ofPayload_nil]
    exact ⟨settled, rfl⟩
  · obtain ⟨record, isRecord, unchanged⟩ := settled payload same.symm
    rw [isRecord]
    exact ⟨settled, unchanged.symm⟩
  · cases isRecord : GooseRecord.ofPayload payload with
    | none => exact ⟨settled, rfl⟩
    | some record =>
      refine ⟨?_, self.pending_append payload record⟩
      intro other accepted
      have equal : payload = other := Option.some.inj accepted
      refine ⟨record, equal ▸ isRecord, ?_⟩
      rw [pending_append, BreakerDisplay.apply_apply]

theorem Settled.runSubscriber {self : BreakerIed} (settled : self.Settled)
    (outcome : PollOutcome) :
    (self.runSubscriber outcome).1.Settled ∧
      (self.runSubscriber outcome).1.pending = self.pending.read outcome := by
  cases outcome with
  | missing => exact ⟨settled, rfl⟩
  | failed => exact ⟨settled, rfl⟩
  | permissionDenied =>
    unfold BreakerIed.runSubscriber
    split_ifs
    · exact ⟨settled, rfl⟩
    · exact ⟨settled, rfl⟩
  | content text =>
    have cleared : ({ self with permissionWarning := false } : BreakerIed).Settled := settled
    exact cleared.accept (strip text)

theorem pending_processQueue (self : BreakerIed) :
    self.processQueue.pending = self.pending := rfl

theorem display_processQueue (self : BreakerIed) :
    self.processQueue.display = self.pending := rfl

/-- The two threads and the plain reader. -/
def Refines (self : BreakerIed) (plain : BreakerDisplay) : Prop :=
  self.Settled ∧ self.pending = plain

theorem Refines.step {self : BreakerIed} {plain : BreakerDisplay} (refines : self.Refines plain)
    (event : Event) : (self.step event).1.Refines (plain.plainStep event).1 := by
  obtain ⟨settled, rfl⟩ := refines
  cases event with
  | poll outcome => exact settled.runSubscriber outcome
  | drain => exact ⟨settled, self.pending_processQueue⟩

theorem start_settled : start.Settled := by
  intro payload accepted
  cases accepted

/-- For all polls and drains in any order, after a last drain the display is that of the plain
reader. -/
theorem poller_refines_plain_reader (events : List Event) :
    (Machine.final step start (events ++ [.drain])).display =
      Machine.final BreakerDisplay.plainStep .start events := by
  have refines := Machine.final_simulation step BreakerDisplay.plainStep Refines
    (fun _ _ event related => related.step event) ⟨start_settled, rfl⟩ events
  rw [Machine.final_append]
  exact refines.2

end BreakerIed

end Substation
