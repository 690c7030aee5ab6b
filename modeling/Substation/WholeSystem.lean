/-
This file puts the programs together. The protection GUI writes its settings in two
steps, and may quit, the publisher loop reads and publishes, the network delivers
any packet sent so far at any time and any number of times, the subscriber program
writes with system calls that may fail, the guard changes the owner and mode of the
file, and the breaker GUI polls and drains. Any of them may take its next step at
any time.

The main result is that nothing on the breaker side is made up on the way: the
subscriber program never stops, what the display shows is what the publisher has
computed for one choice of settings, and the breaker is opened or closed only if
settings were chosen for which it has to be.
-/

import Substation.EndToEnd
import Substation.HandOff
import Substation.Station

namespace Substation

open Decimal

/-! ### The programs -/

structure WholeSystem where
  /-- The protection GUI, its file and the publisher program. -/
  handOff : HandOff
  /-- The protection GUI has quit, and has removed its file. -/
  guiQuit : Bool
  /-- The packets sent so far. -/
  sent : List (List UInt8)
  /-- The subscriber program, the files and the breaker GUI. -/
  station : BreakerStation

/-- What does not change in a run. -/
structure SystemSetup where
  srcAddr : MacAddress
  startTime : Nat
  station : StationSetup
  /-- The files that are there, apart from the shared one. -/
  files : Files.Store Text FileEntry
  /-- The owner and the mode that the start script has given the shared file. -/
  owner : FileOwner
  mode : ℕ
  buffer : List UInt8

namespace WholeSystem

inductive Event
  /-- The next step of the protection GUI, with some settings. -/
  | gui (settings : SliderSettings)
  /-- `cleanup` of the protection GUI. -/
  | quitGui
  | publisher (now : Nat)
  /-- A packet arrives, with its tag or without it. -/
  | deliver (index : Nat) (stripped : Bool) (now later : Nat) (strayTrip strayClose : Bool)
      (statSucceeds : Bool) (suffix : Text)
  /-- The next system call of the subscriber program returns. -/
  | call (result : SystemResult)
  | guardChown (succeeds : Bool)
  | guardChmod (succeeds : Bool)
  | poll
  | drain

/-- A packet as it arrives. -/
def arrival (packet : List UInt8) (stripped : Bool) : List UInt8 :=
  if stripped then stripTag packet else packet

/-- What the publisher finds of the file of the protection GUI. -/
def guiFile (self : WholeSystem) : Option Text :=
  if self.guiQuit then none else some self.handOff.file

def step (setup : SystemSetup) (self : WholeSystem) : Event → WholeSystem × Unit
  | .gui settings =>
    (if self.guiQuit then self
      else { self with handOff := (self.handOff.step (.gui settings.record)).1 }, ())
  | .quitGui => ({ self with guiQuit := true }, ())
  | .publisher now =>
    let turn := self.handOff.loop.iterate ⟨self.guiFile, now⟩
    ({ self with
      handOff := { self.handOff with loop := turn.1 }
      sent := self.sent ++ turn.2.packet.toList }, ())
  | .deliver index stripped now later strayTrip strayClose statSucceeds suffix =>
    match self.sent[index]? with
    | none => (self, ())
    | some packet =>
      ({ self with station := (self.station.step setup.station
          (.frame ⟨arrival packet stripped, now, later, strayTrip, strayClose⟩ statSucceeds
            suffix)).1 }, ())
  | .call result =>
    ({ self with station := (self.station.step setup.station (.call result)).1 }, ())
  | .guardChown succeeds =>
    ({ self with station := (self.station.step setup.station (.guardChown succeeds)).1 }, ())
  | .guardChmod succeeds =>
    ({ self with station := (self.station.step setup.station (.guardChmod succeeds)).1 }, ())
  | .poll => ({ self with station := (self.station.step setup.station .poll).1 }, ())
  | .drain => ({ self with station := (self.station.step setup.station .drain).1 }, ())

/-- The start scripts have written their lines, and the breaker is in some position. -/
def start (setup : SystemSetup) (initial : SliderSettings) (position : BreakerPosition) :
    WholeSystem where
  handOff := .start setup.srcAddr setup.startTime initial.record
  guiQuit := false
  sent := []
  station := .start setup.buffer
    (Files.create setup.files gooseSharedFile
      ⟨BreakerSystem.initialLine, setup.owner, setup.mode⟩)
    (BreakerSystem.start position).breaker

/-- The settings of a run: those of the start script and those chosen since. -/
def Chosen (initial : SliderSettings) (events : List Event) (settings : SliderSettings) : Prop :=
  settings = initial ∨ .gui settings ∈ events

end WholeSystem

/-! ### Where values come from -/

section Origin

variable (Known : SliderSettings → Prop)

/-- The values the publisher computes for some settings, or without any. -/
def Computed (dataset : Dataset) : Prop :=
  (∃ settings, Known settings ∧ dataset = HandOff.protectedValues settings.record) ∨
    dataset = (protectionLogic (readGuiData none)).dataset

/-- The line of the start script, or one of computed values. -/
def Line (text : Text) : Prop :=
  text = BreakerSystem.initialLine ∨ ∃ dataset, Computed Known dataset ∧ text = sharedLine dataset

/-- The fields of the line of the start script. -/
def initialRecord : GooseRecord :=
  ⟨['0'], ['0'], ['0'], "50".toList, "0.0".toList, ['0'], "49.8".toList⟩

def Shown (record : GooseRecord) : Prop :=
  record = initialRecord ∨ ∃ dataset, Computed Known dataset ∧ record = dataset.record

variable {Known}

theorem Line.shown {text : Text} (line : Line Known text) {record : GooseRecord}
    (split : GooseRecord.ofPayload (strip text) = some record) : Shown Known record := by
  rcases line with rfl | ⟨dataset, computed, rfl⟩
  · have fields : GooseRecord.ofPayload (strip BreakerSystem.initialLine) = some initialRecord := by
      decide +kernel
    rw [fields, Option.some.injEq] at split
    exact .inl split.symm
  · rw [ofPayload_sharedLine, Option.some.injEq] at split
    exact .inr ⟨dataset, computed, split.symm⟩

/-- Without settings the publisher commands nothing. -/
theorem commands_default :
    (protectionLogic (readGuiData none)).dataset.tripCommand = false ∧
      (protectionLogic (readGuiData none)).dataset.closeCommand = false := by
  decide +kernel

theorem Computed.trip {dataset : Dataset} (computed : Computed Known dataset)
    (trip : dataset.tripCommand = true) : ∃ settings, Known settings ∧ settings.Tripping := by
  rcases computed with ⟨settings, known, rfl⟩ | rfl
  · exact ⟨settings, known, (tripCommand_record settings).mp trip⟩
  · rw [commands_default.1] at trip
    cases trip

theorem Computed.close {dataset : Dataset} (computed : Computed Known dataset)
    (quiet : dataset.tripCommand ≠ true) (close : dataset.closeCommand = true) :
    ∃ settings, Known settings ∧ settings.close = true ∧ ¬ settings.Tripping := by
  rcases computed with ⟨settings, known, rfl⟩ | rfl
  · refine ⟨settings, known, ?_, mt (tripCommand_record settings).mpr quiet⟩
    rw [HandOff.protectedValues, closeCommand_protectionLogic, decide_eq_true_iff] at close
    have flag : flagWord settings.close ≠ 0 := close
    cases chosen : settings.close with
    | true => rfl
    | false =>
      rw [chosen] at flag
      exact absurd rfl flag
  · rw [commands_default.2] at close
    cases close

variable (Known)

/-- The position is the first one, or settings were chosen that lead to it. -/
structure Caused (position current : BreakerPosition) : Prop where
  opened : current = .opened →
    position = .opened ∨ ∃ settings, Known settings ∧ settings.Tripping
  closed : current = .closed →
    position = .closed ∨ ∃ settings, Known settings ∧ settings.close = true ∧ ¬ settings.Tripping

variable {Known}

theorem Caused.operate {position current : BreakerPosition} (caused : Caused Known position current)
    {record : GooseRecord} (shown : Shown Known record) :
    Caused Known position (record.operate current) := by
  rcases shown with rfl | ⟨dataset, computed, rfl⟩
  · exact caused
  · rw [Dataset.operate_record, Dataset.operate]
    by_cases trip : dataset.tripCommand = true
    · rw [if_pos trip]
      refine ⟨fun _ => .inr (computed.trip trip), ?_⟩
      intro impossible
      cases impossible
    · rw [if_neg trip]
      by_cases close : dataset.closeCommand = true
      · rw [if_pos close]
        refine ⟨?_, fun _ => .inr (computed.close trip close)⟩
        intro impossible
        cases impossible
      · rw [if_neg close]
        exact caused

end Origin

/-! ### The publisher side -/

namespace HandOff

/-- The file is whole or empty, holds settings that are known, and the publisher is configured. -/
structure Feeding (Known : SliderSettings → Prop) (srcAddr : MacAddress) (handOff : HandOff) :
    Prop where
  whole : handOff.Whole
  completed : ∃ settings, Known settings ∧ handOff.completed = settings.record
  writing : ∀ record, handOff.writing = some record →
    ∃ settings, Known settings ∧ record = settings.record
  configured : ∃ last : Message, handOff.loop.publisher = last.publisher srcAddr

variable {Known : SliderSettings → Prop} {srcAddr : MacAddress} {self : HandOff}

theorem Feeding.gui (feeding : self.Feeding Known srcAddr) {settings : SliderSettings}
    (known : Known settings) : (self.step (.gui settings.record)).1.Feeding Known srcAddr := by
  have whole := feeding.whole.step (.gui settings.record)
  rw [step] at whole ⊢
  cases writing : self.writing with
  | none =>
    rw [writing] at whole
    refine ⟨whole, feeding.completed, ?_, feeding.configured⟩
    rintro _ ⟨⟩
    exact ⟨settings, known, rfl⟩
  | some record =>
    rw [writing] at whole
    refine ⟨whole, feeding.writing record writing, ?_, feeding.configured⟩
    intro _ nothing
    cases nothing

/-- A turn of the publisher sends a message of computed values, with or without the file. -/
theorem Feeding.publisher (feeding : self.Feeding Known srcAddr) {file : Option Text}
    (present : ∀ text, file = some text → text = self.file) (now : Nat) :
    HandOff.Feeding Known srcAddr { self with loop := (self.loop.iterate ⟨file, now⟩).1 } ∧
      ∃ message : Message, Computed Known message.dataset ∧
        (self.loop.iterate ⟨file, now⟩).2.packet = some (message.frame srcAddr) := by
  obtain ⟨last, configured⟩ := feeding.configured
  have turn := PublishLoop.publishData_eq configured (protectionLogic (readGuiData file)) now
  refine ⟨⟨feeding.whole, feeding.completed, feeding.writing, ?_⟩, ?_⟩
  · exact ⟨_, congrArg (fun taken => taken.1.publisher) turn⟩
  · refine ⟨_, ?_, congrArg (fun taken => taken.2.packet) turn⟩
    rw [PublishLoop.message_dataset]
    cases file with
    | none => exact .inr rfl
    | some text =>
      have whole := feeding.whole
      rw [Whole, ← present text rfl] at whole
      cases writing : self.writing with
      | none =>
        obtain ⟨settings, known, completed⟩ := feeding.completed
        rw [writing] at whole
        rw [whole, readGuiData_line, completed]
        exact .inl ⟨settings, known, rfl⟩
      | some record =>
        rw [writing] at whole
        rw [whole, readGuiData_empty]
        exact .inr rfl

end HandOff

/-! ### The breaker side -/

section Breaker

variable (Known : SliderSettings → Prop) (start : BreakerDisplay)

/-- The display is the first one, or has last shown a line of computed values. -/
structure BreakerDisplay.Fed (display : BreakerDisplay) : Prop where
  position : Caused Known start.breakerStatus display.breakerStatus
  last : display = start ∨ ∃ (before : BreakerDisplay) (record : GooseRecord),
    Shown Known record ∧ display = before.apply record

/-- What is queued and shown comes from computed values. -/
structure BreakerIed.Fed (breaker : BreakerIed) : Prop where
  queue : ∀ record ∈ breaker.dataQueue, Shown Known record
  display : BreakerDisplay.Fed Known start breaker.display

variable {Known start}

/-- The queue is applied one record after another. -/
theorem BreakerDisplay.Fed.foldl {queue : List GooseRecord}
    (shown : ∀ record ∈ queue, Shown Known record) {display : BreakerDisplay}
    (fed : BreakerDisplay.Fed Known start display) :
    BreakerDisplay.Fed Known start (queue.foldl BreakerDisplay.apply display) := by
  induction queue generalizing display with
  | nil => exact fed
  | cons record queue inductionHypothesis =>
    rw [List.forall_mem_cons] at shown
    refine inductionHypothesis shown.2 ⟨?_, .inr ⟨display, record, shown.1, rfl⟩⟩
    exact fed.position.operate shown.1

theorem BreakerIed.Fed.accept {breaker : BreakerIed} (fed : breaker.Fed Known start) {text : Text}
    (line : Line Known text) : (breaker.accept (strip text)).Fed Known start := by
  rw [BreakerIed.accept]
  split_ifs
  · exact fed
  · exact fed
  · cases split : GooseRecord.ofPayload (strip text) with
    | none => exact fed
    | some record =>
      refine ⟨?_, fed.display⟩
      intro other member
      rcases List.mem_append.mp member with before | added
      · exact fed.queue other before
      · rw [List.mem_singleton.mp added]
        exact line.shown split

theorem BreakerIed.Fed.poll {breaker : BreakerIed} (fed : breaker.Fed Known start)
    {outcome : PollOutcome} (line : ∀ text, outcome = .content text → Line Known text) :
    (breaker.runSubscriber outcome).1.Fed Known start := by
  cases outcome with
  | missing => exact fed
  | failed => exact fed
  | permissionDenied =>
    have same := breaker.sameView_denied
    refine ⟨?_, ?_⟩
    · rw [same.dataQueue]
      exact fed.queue
    · rw [same.display]
      exact fed.display
  | content text =>
    have cleared : ({ breaker with permissionWarning := false } : BreakerIed).Fed Known start :=
      ⟨fed.queue, fed.display⟩
    exact cleared.accept (line text rfl)

theorem BreakerIed.Fed.drain {breaker : BreakerIed} (fed : breaker.Fed Known start) :
    breaker.processQueue.Fed Known start :=
  ⟨List.forall_mem_nil _, fed.display.foldl fed.queue⟩

end Breaker

namespace BreakerStation

/-- The program reads on, and what it writes comes from computed values. -/
structure Fed (Known : SliderSettings → Prop) (base : Files.Store Text FileEntry)
    (start : BreakerDisplay) (station : BreakerStation) : Prop where
  tidy : station.Tidy (fun _ => True) base
  listening : ∃ listener, station.listener = some listener ∧ listener.subscriber.Expecting ∧
    ∀ request stage, listener.writing = some (request, stage) → Computed Known request.dataset
  line : ∀ text, readShared station.files = some text → Line Known text
  breaker : station.breaker.Fed Known start
  settled : station.breaker.Settled

variable {Known : SliderSettings → Prop} {base : Files.Store Text FileEntry}
  {start : BreakerDisplay} {setup : StationSetup} {self : BreakerStation}

theorem Fed.frame (fed : self.Fed Known base start) {message : Message}
    (computed : Computed Known message.dataset) {srcAddr : MacAddress} {reception : Reception}
    (arrives : Arrives (message.frame srcAddr) reception.frame) (statSucceeds : Bool)
    (suffix : Text) :
    (self.step setup (.frame reception statSucceeds suffix)).1.Fed Known base start := by
  have still := @Tidy.frame setup _ base self fed.tidy reception statSucceeds suffix
  obtain ⟨listener, listening, expecting, writing⟩ := fed.listening
  obtain ⟨after, call, taken, ready, reads, -⟩ :=
    @step_frame (listener.program self.files) expecting message srcAddr reception arrives
  rw [step] at still ⊢
  simp only [listening] at still ⊢
  refine ⟨still, ?_, fed.line, fed.breaker, fed.settled⟩
  generalize received : listener.receive setup self.files reception _ suffix = next
  rcases listener.receive_cases setup self.files reception _ suffix received with
    ⟨-, rfl⟩ | ⟨idle, ⟨stops, -⟩ | ⟨other, ignored, -⟩ | ⟨other, heard, called, rfl⟩⟩
  · exact ⟨listener, rfl, expecting, writing⟩
  · rw [taken] at stops
    cases stops
  · rw [taken] at ignored
    cases ignored
  · rw [taken] at called
    cases called
    refine ⟨_, rfl, ready, ?_⟩
    rw [reads.dataset]
    rintro request stage ⟨⟩
    exact computed

theorem Fed.call (fed : self.Fed Known base start) (result : SystemResult) :
    (self.step setup (.call result)).1.Fed Known base start := by
  obtain ⟨listener, listening, expecting, computed⟩ := fed.listening
  rw [step]
  simp only [listening]
  cases writing : listener.writing with
  | none => exact fed
  | some pair =>
    obtain ⟨request, stage⟩ := pair
    obtain ⟨still, file⟩ := @Tidy.call _ base self _ listening _ _ writing fed.tidy result
      fun _ _ => trivial
    have values := computed request stage writing
    simp only
    refine ⟨still, ⟨_, rfl, expecting, ?_⟩, ?_, fed.breaker, fed.settled⟩
    · intro other later same
      rcases writing_resume listener request
        (request.step ⟨stage, self.files, listener.ownership⟩ result).1 with
        ⟨renamed, -, done⟩ | going
      · rw [done] at same
        cases same
      · rw [going] at same
        cases same
        exact values
    · intro text found
      rw [file] at found
      split_ifs at found
      · rw [Option.some.injEq] at found
        exact .inr ⟨request.dataset, values, found.symm⟩
      · exact fed.line text found

theorem Fed.guard (fed : self.Fed Known base start) (succeeds : Bool)
    (change : FileEntry → FileEntry) (kept : ∀ entry, (change entry).content = entry.content) :
    (self.guard succeeds change).Fed Known base start := by
  obtain ⟨still, file⟩ := fed.tidy.guard succeeds change kept
  refine ⟨still, fed.listening, ?_, fed.breaker, fed.settled⟩
  rw [file]
  exact fed.line

theorem Fed.poll (fed : self.Fed Known base start) :
    (self.step setup .poll).1.Fed Known base start := by
  refine ⟨fed.tidy, fed.listening, fed.line, fed.breaker.poll ?_,
    (fed.settled.runSubscriber _).1⟩
  intro text found
  refine fed.line text ?_
  rw [StationSetup.poll] at found
  cases shared : self.files gooseSharedFile with
  | none =>
    rw [shared] at found
    cases found
  | some entry =>
    simp only [shared] at found
    split_ifs at found
    cases found
    rw [readShared, shared, Option.map_some]

end BreakerStation

/-! ### Every run of the whole system -/

namespace WholeSystem

structure Fed (Known : SliderSettings → Prop) (setup : SystemSetup) (display : BreakerDisplay)
    (system : WholeSystem) : Prop where
  handOff : system.handOff.Feeding Known setup.srcAddr
  sent : ∀ packet ∈ system.sent, ∃ message : Message, Computed Known message.dataset ∧
    packet = message.frame setup.srcAddr
  station : system.station.Fed Known setup.files display

variable {Known : SliderSettings → Prop} {setup : SystemSetup} {display : BreakerDisplay}
  {self : WholeSystem}

theorem arrives_arrival (packet : List UInt8) (stripped : Bool) :
    Arrives packet (arrival packet stripped) := by
  cases stripped
  · exact .inl rfl
  · exact .inr rfl

theorem Fed.step (fed : self.Fed Known setup display) {event : Event}
    (known : ∀ settings, event = .gui settings → Known settings) :
    (self.step setup event).1.Fed Known setup display := by
  cases event with
  | gui settings =>
    rw [WholeSystem.step]
    split
    · exact fed
    · exact ⟨fed.handOff.gui (known settings rfl), fed.sent, fed.station⟩
  | quitGui => exact ⟨fed.handOff, fed.sent, fed.station⟩
  | publisher now =>
    have present : ∀ text, self.guiFile = some text → text = self.handOff.file := by
      intro text found
      rw [guiFile] at found
      split_ifs at found
      exact (Option.some.inj found).symm
    obtain ⟨feeding, message, computed, packet⟩ := fed.handOff.publisher present now
    refine ⟨feeding, ?_, fed.station⟩
    intro other member
    rcases List.mem_append.mp member with before | added
    · exact fed.sent other before
    · rw [packet, Option.toList_some, List.mem_singleton] at added
      exact ⟨message, computed, added⟩
  | deliver index stripped now later strayTrip strayClose statSucceeds suffix =>
    rw [WholeSystem.step]
    cases found : self.sent[index]? with
    | none => exact fed
    | some packet =>
      obtain ⟨message, computed, rfl⟩ := fed.sent packet (List.mem_of_getElem? found)
      exact ⟨fed.handOff, fed.sent,
        fed.station.frame computed (arrives_arrival _ stripped) statSucceeds suffix⟩
  | call result => exact ⟨fed.handOff, fed.sent, fed.station.call result⟩
  | guardChown succeeds =>
    exact ⟨fed.handOff, fed.sent, fed.station.guard succeeds _ fun entry => rfl⟩
  | guardChmod succeeds =>
    exact ⟨fed.handOff, fed.sent, fed.station.guard succeeds _ fun entry => rfl⟩
  | poll => exact ⟨fed.handOff, fed.sent, fed.station.poll⟩
  | drain =>
    exact ⟨fed.handOff, fed.sent, ⟨fed.station.tidy, fed.station.listening, fed.station.line,
      fed.station.breaker.drain, fed.station.settled⟩⟩

theorem fed_start (setup : SystemSetup) (initial : SliderSettings) (position : BreakerPosition)
    (known : Known initial) :
    (start setup initial position).Fed Known setup
      (BreakerSystem.start position).breaker.display where
  handOff :=
    { whole := rfl
      completed := ⟨initial, known, rfl⟩
      writing := by
        intro record nothing
        cases nothing
      configured :=
        ⟨⟨1, 0, setup.startTime, ⟨false, false, 0, 0, 0, 0, 0⟩⟩, rfl⟩ }
  sent := List.forall_mem_nil _
  station :=
    { tidy := fun path different => .inl (Files.create_other setup.files different _)
      listening := ⟨.start setup.buffer, rfl, .inl rfl, by
        intro request stage nothing
        cases nothing⟩
      line := by
        intro text found
        have written : readShared (start setup initial position).station.files =
            some BreakerSystem.initialLine :=
          congrArg (Option.map FileEntry.content) (Files.create_self setup.files gooseSharedFile _)
        rw [written, Option.some.injEq] at found
        exact .inl found.symm
      breaker := ⟨List.forall_mem_nil _, ⟨.inl, .inl⟩, .inl rfl⟩
      settled := by
        intro payload accepted
        cases accepted }

/-- Everything in a state that a run reaches comes from the settings of the run. -/
theorem fed_final (setup : SystemSetup) (initial : SliderSettings) (position : BreakerPosition)
    (events : List Event) :
    (Machine.final (step setup) (start setup initial position) events).Fed
      (Chosen initial events) setup (BreakerSystem.start position).breaker.display := by
  refine Machine.final_invariant_of_mem (step setup) _ ?_
    (fed_start setup initial position (.inl rfl))
  intro state event member fed
  refine fed.step ?_
  rintro settings rfl
  exact .inr member

/-- For every interleaving of the protection GUI, the publisher loop, the deliveries (with losses,
repetitions and reordering), the system calls of the subscriber program with any results, the
guard, the polls and the drains: the subscriber program never stops, the display is the first one or
has last shown the line of the start script or the values the publisher computes for settings that
were chosen (or for none), and the breaker is open, or closed, only if it was from the start or
settings were chosen that open it, or close it. -/
theorem breaker_operates_only_for_chosen_settings (setup : SystemSetup)
    (initial : SliderSettings) (position : BreakerPosition) (events : List Event) :
    let system := Machine.final (step setup) (start setup initial position) events
    let display := system.station.breaker.display
    system.station.listener.isSome = true ∧
      (display = (BreakerSystem.start position).breaker.display ∨
        ∃ (before : BreakerDisplay) (record : GooseRecord),
          Shown (Chosen initial events) record ∧ display = before.apply record) ∧
      (display.breakerStatus = .opened → position = .opened ∨
        ∃ settings, Chosen initial events settings ∧ settings.Tripping) ∧
      (display.breakerStatus = .closed → position = .closed ∨
        ∃ settings, Chosen initial events settings ∧ settings.close = true ∧
          ¬ settings.Tripping) := by
  intro system display
  have fed := fed_final setup initial position events
  obtain ⟨listener, listening, -, -⟩ := fed.station.listening
  have shown := fed.station.breaker.display
  refine ⟨?_, shown.last, shown.position.opened, shown.position.closed⟩
  rw [listening]
  rfl

end WholeSystem

end Substation
