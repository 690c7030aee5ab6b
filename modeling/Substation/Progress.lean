/-
This file shows that no history of the whole system stands in the way of the next
settings. Whatever has happened, with packets lost and repeated, system calls failed
and any of the programs in the middle of something: when the subscriber program
gets done with its write, and one round of the programs then goes undisturbed, the
display shows the settings and the breaker has followed them.
-/

import Substation.Access
import Substation.WholeSystem

namespace Substation

open Decimal

/-! ### A write that goes well -/

namespace WriteRequest

/-- Where the function can be when every call has succeeded. -/
def Smooth (request : WriteRequest) (files : Files.Store Text FileEntry) : Stage → Prop
  | .snprintf | .stat | .mkstemp => files request.temporaryFile = none
  | .abandon | .unlink | .returned false => False
  | .returned true => OpenedUp files
  | _ => True

variable {request : WriteRequest}

theorem smooth_afterWrite (files : Files.Store Text FileEntry) (total : ℕ) :
    request.Smooth files (request.afterWrite total) := by
  unfold afterWrite
  split
  · exact trivial
  · exact trivial

theorem Smooth.step {state : WriteState} (smooth : request.Smooth state.files state.stage)
    {result : SystemResult} (succeeded : result.succeeded = true) :
    request.Smooth (request.step state result).1.files (request.step state result).1.stage := by
  obtain ⟨stage, files, ownership⟩ := state
  cases stage with
  | snprintf =>
    dsimp only [WriteRequest.step]
    rw [succeeded, if_pos rfl]
    split
    · exact smooth
    · exact smooth
  | stat => exact smooth
  | mkstemp =>
    have fresh : files request.temporaryFile = none := smooth
    dsimp only [WriteRequest.step]
    rw [if_pos (by rw [succeeded, fresh]; rfl)]
    exact trivial
  | fchmod =>
    dsimp only [WriteRequest.step]
    by_cases target : ownership.haveTarget = true
    · rw [if_pos target]
      exact trivial
    · rw [if_neg target]
      exact smooth_afterWrite _ 0
  | fchown => exact smooth_afterWrite _ 0
  | write total =>
    cases result with
    | interrupted => cases succeeded
    | failure => cases succeeded
    | success more => exact smooth_afterWrite _ _
  | abandon => exact smooth.elim
  | unlink => exact smooth.elim
  | fsync => exact trivial
  | close => exact trivial
  | rename =>
    dsimp only [WriteRequest.step]
    rw [succeeded, if_pos rfl]
    split
    · exact trivial
    · exact trivial
  | chown => exact trivial
  | chmod =>
    dsimp only [WriteRequest.step]
    rw [succeeded, if_pos rfl]
    exact openedUp_openUp files
  | returned renamed => exact smooth

/-- More calls than the function can make, writes that are interrupted left aside: one for each of
the 127 characters of the longest line, and those around the writes. -/
def callBound : ℕ := 139

theorem remaining_lt_callBound (request : WriteRequest) (stage : Stage) :
    request.remaining stage < callBound := by
  have length : request.line.length ≤ 127 := by
    rw [line, sharedLine, List.length_take]
    exact min_le_left _ _
  cases stage <;> rw [remaining, callBound] <;> omega

theorem remaining_pos (request : WriteRequest) {stage : Stage}
    (going : ∀ renamed, stage ≠ .returned renamed) : 1 ≤ request.remaining stage := by
  cases stage with
  | returned renamed => exact absurd rfl (going renamed)
  | _ => rw [remaining] <;> omega

end WriteRequest

/-! ### The calls of the subscriber program -/

namespace BreakerStation

/-- The system calls of the subscriber program, and nothing else. -/
def callStep (setup : StationSetup) (self : BreakerStation) (result : SystemResult) :
    BreakerStation × Option BreakerSystem.Event :=
  self.step setup (.call result)

/-- How many calls may still follow. -/
def rank (self : BreakerStation) : ℕ :=
  match self.writing with
  | none => 0
  | some (request, stage) => request.remaining stage + 1

variable {setup : StationSetup} {self : BreakerStation}

theorem writing_eq_some {request : WriteRequest} {stage : Stage}
    (writing : self.writing = some (request, stage)) :
    ∃ listener, self.listener = some listener ∧ listener.writing = some (request, stage) :=
  Option.bind_eq_some_iff.mp writing

theorem callStep_of_idle (idle : self.writing = none) (result : SystemResult) :
    (self.callStep setup result).1 = self := by
  rw [callStep, step]
  cases listening : self.listener with
  | none => rfl
  | some listener =>
    rw [BreakerStation.writing, listening, Option.bind_some] at idle
    simp only [idle]

/-- A call of a write in progress. -/
theorem callStep_of_writing {request : WriteRequest} {stage : Stage} {listener : Listener}
    (listening : self.listener = some listener)
    (writing : listener.writing = some (request, stage)) (result : SystemResult) :
    let state := (request.step ⟨stage, self.files, listener.ownership⟩ result).1
    (self.callStep setup result).1 =
      ⟨some (listener.resume request state), state.files, self.breaker⟩ := by
  intro state
  rw [callStep, step]
  simp only [listening, writing]
  rfl

theorem rank_callStep (self : BreakerStation) (result : SystemResult) :
    (self.callStep setup result).1.rank ≤ self.rank - result.completed.toNat := by
  have one := Bool.toNat_le result.completed
  cases before : self.writing with
  | none =>
    have nothing : self.rank = 0 := by rw [rank, before]
    rw [callStep_of_idle before, nothing]
    exact Nat.zero_le _
  | some pair =>
    obtain ⟨request, stage⟩ := pair
    obtain ⟨listener, listening, writing⟩ := writing_eq_some before
    have left : self.rank = request.remaining stage + 1 := by rw [rank, before]
    have falls := request.remaining_step ⟨stage, self.files, listener.ownership⟩ result
    dsimp only at falls
    rw [callStep_of_writing listening writing, rank, BreakerStation.writing, Option.bind_some]
    rcases writing_resume listener request
      (request.step ⟨stage, self.files, listener.ownership⟩ result).1 with
      ⟨renamed, -, done⟩ | still
    · rw [done]
      exact Nat.zero_le _
    · have going : ∀ renamed, stage ≠ .returned renamed := by
        rintro renamed rfl
        cases still
      have positive := request.remaining_pos going
      rw [still, left]
      dsimp only
      omega

/-- A write gets done after enough calls, whatever their results. -/
theorem idle_final (self : BreakerStation) {results : List SystemResult}
    (enough : WriteRequest.callBound ≤ results.countP SystemResult.completed) :
    (Machine.final (callStep setup) self results).writing = none := by
  have falls := Machine.final_rank (callStep setup) rank SystemResult.completed rank_callStep self
    results
  have bound : self.rank ≤ WriteRequest.callBound := by
    rw [rank]
    split
    · exact Nat.zero_le _
    · next request stage _ => exact request.remaining_lt_callBound stage
  have nothing : (Machine.final (callStep setup) self results).rank = 0 := by omega
  rw [rank] at nothing
  cases writing : (Machine.final (callStep setup) self results).writing with
  | none => rfl
  | some pair =>
    rw [writing] at nothing
    cases nothing

theorem breaker_final (self : BreakerStation) (results : List SystemResult) :
    (Machine.final (callStep setup) self results).breaker = self.breaker := by
  refine Machine.final_invariant (callStep setup) (fun station => station.breaker = self.breaker)
    ?_ rfl results
  intro station result same
  cases before : station.writing with
  | none =>
    rw [callStep_of_idle before]
    exact same
  | some pair =>
    obtain ⟨listener, listening, writing⟩ := writing_eq_some before
    rw [callStep_of_writing listening writing]
    exact same

/-- A write in progress whose calls have all succeeded, or what it leaves behind. -/
structure Underway (base : Files.Store Text FileEntry) (request : WriteRequest)
    (station : BreakerStation) : Prop where
  tidy : station.Tidy (fun _ => True) base
  smooth : (∃ stage, station.writing = some (request, stage) ∧
      request.Smooth station.files stage) ∨
    station.writing = none ∧ readShared station.files = some request.line ∧
      OpenedUp station.files

theorem Underway.call {base : Files.Store Text FileEntry} {request : WriteRequest}
    (underway : self.Underway base request) {result : SystemResult}
    (succeeded : result.succeeded = true) :
    (self.callStep setup result).1.Underway base request := by
  rcases underway.smooth with ⟨stage, before, smooth⟩ | ⟨idle, left⟩
  · obtain ⟨listener, listening, writing⟩ := writing_eq_some before
    obtain ⟨tidy, -⟩ := @Tidy.call _ base self _ listening _ _ writing underway.tidy result
      fun _ _ => trivial
    have still := underway.tidy
    rw [Tidy, before] at still
    obtain ⟨initial, ownership, -, consistent⟩ := still
    have next := WriteRequest.consistent_step ⟨stage, self.files, listener.ownership⟩ result
      (fun _ => trivial) consistent
    have going := @WriteRequest.Smooth.step request ⟨stage, self.files, listener.ownership⟩ smooth
      result succeeded
    rw [callStep_of_writing listening writing]
    refine ⟨tidy, ?_⟩
    rw [BreakerStation.writing, Option.bind_some]
    rcases writing_resume listener request
      (request.step ⟨stage, self.files, listener.ownership⟩ result).1 with
      ⟨renamed, returned, done⟩ | writes
    · rw [returned] at going
      cases renamed with
      | false => exact going.elim
      | true =>
        refine .inr ⟨done, next.readShared_of_afterRename ?_, going⟩
        rw [returned]
        exact trivial
    · exact .inl ⟨_, writes, going⟩
  · rw [callStep_of_idle idle]
    exact ⟨underway.tidy, .inr ⟨idle, left⟩⟩

/-- Enough calls that succeed leave the line in a file that everyone can read. -/
theorem Underway.final {base : Files.Store Text FileEntry} {request : WriteRequest}
    (underway : self.Underway base request) {results : List SystemResult}
    (succeeded : ∀ result ∈ results, result.succeeded = true)
    (enough : WriteRequest.callBound ≤ results.length) :
    readShared (Machine.final (callStep setup) self results).files = some request.line ∧
      OpenedUp (Machine.final (callStep setup) self results).files := by
  have completed : results.countP SystemResult.completed = results.length := by
    rw [List.countP_eq_length]
    intro result member
    have success := succeeded result member
    cases result with
    | success more => rfl
    | interrupted => cases success
    | failure => cases success
  have after := Machine.final_invariant_of_mem (callStep setup) (Underway base request)
    (fun _ result member underway => underway.call (succeeded result member)) underway
  rcases after.smooth with ⟨stage, writing, -⟩ | ⟨-, left⟩
  · rw [idle_final self (by rw [completed]; exact enough)] at writing
    cases writing
  · exact left

/-- A frame of the publisher that finds the program idle makes it write its values. -/
theorem Fed.begins {Known : SliderSettings → Prop} {base : Files.Store Text FileEntry}
    {start : BreakerDisplay} (fed : self.Fed Known base start) (idle : self.writing = none)
    {message : Message} {srcAddr : MacAddress} {reception : Reception}
    (arrives : Arrives (message.frame srcAddr) reception.frame) (statSucceeds : Bool)
    (suffix : Text) :
    let delivered := (self.step setup (.frame reception statSucceeds suffix)).1
    delivered.writing = some (⟨message.dataset, suffix, setup.process⟩, .snprintf) ∧
      delivered.files = self.files ∧ delivered.breaker = self.breaker := by
  obtain ⟨listener, listening, expecting, -⟩ := fed.listening
  obtain ⟨after, call, taken, -, reads, -⟩ :=
    @step_frame (listener.program self.files) expecting message srcAddr reception arrives
  rw [BreakerStation.writing, listening, Option.bind_some] at idle
  rw [step]
  simp only [listening]
  generalize received : listener.receive setup self.files reception _ suffix = next
  rcases listener.receive_cases setup self.files reception _ suffix received with
    ⟨busy, -⟩ | ⟨-, ⟨stops, -⟩ | ⟨other, ignored, -⟩ | ⟨other, heard, called, rfl⟩⟩
  · exact absurd idle busy
  · rw [taken] at stops
    cases stops
  · rw [taken] at ignored
    cases ignored
  · rw [taken] at called
    cases called
    refine ⟨?_, trivial, trivial⟩
    rw [BreakerStation.writing, Option.bind_some, reads.dataset]
    rfl

/-- A frame of the publisher, the calls of its write, a poll and a drain: the display shows the
values of the frame, and the breaker has followed them from where the queue had put it. -/
theorem Fed.shows {Known : SliderSettings → Prop} {base : Files.Store Text FileEntry}
    {start : BreakerDisplay} (fed : self.Fed Known base start) (idle : self.writing = none)
    {message : Message} {srcAddr : MacAddress} {reception : Reception}
    (arrives : Arrives (message.frame srcAddr) reception.frame) (statSucceeds : Bool)
    {suffix : Text} (fresh : self.files (gooseSharedFile ++ '.' :: suffix) = none)
    {results : List SystemResult} (succeeded : ∀ result ∈ results, result.succeeded = true)
    (enough : WriteRequest.callBound ≤ results.length) :
    let delivered := (self.step setup (.frame reception statSucceeds suffix)).1
    let written := Machine.final (callStep setup) delivered results
    (written.breaker.runSubscriber (setup.poll written.files)).1.processQueue.display =
      self.breaker.pending.apply message.dataset.record := by
  intro delivered written
  obtain ⟨begun, files, breaker⟩ :=
    @Fed.begins setup self Known base start fed idle message srcAddr reception arrives statSucceeds
      suffix
  have underway : delivered.Underway base ⟨message.dataset, suffix, setup.process⟩ := by
    refine ⟨fed.tidy.frame reception statSucceeds suffix, .inl ⟨.snprintf, begun, ?_⟩⟩
    show delivered.files _ = none
    rw [files]
    exact fresh
  obtain ⟨line, opened⟩ := @Underway.final setup delivered base _ underway results succeeded enough
  obtain ⟨entry, found, content⟩ := Option.map_eq_some_iff.mp line
  have readable := FileEntry.readableBy_of_mode
    ((opened entry found).symm ▸ readableByAll_gooseFileMode) setup.reader
  have polled : setup.poll written.files = .content (sharedLine message.dataset) := by
    rw [StationSetup.poll, found]
    simp only [readable, if_true, content]
    rfl
  have same : written.breaker = self.breaker := (breaker_final delivered results).trans breaker
  rw [polled, same]
  exact display_sharedLine fed.settled message.dataset

end BreakerStation

/-! ### One round of the whole system -/

namespace WholeSystem

/-- The settings of a round, and what the environment decides in it. -/
structure Round where
  settings : SliderSettings
  /-- What the calls return with which a write in progress gets done. -/
  finishing : List SystemResult
  turn : Nat
  stripped : Bool
  now : Nat
  later : Nat
  strayTrip : Bool
  strayClose : Bool
  statSucceeds : Bool
  suffix : Text
  /-- What the calls return with which the values of the round are written. -/
  writing : List SystemResult

/-- A write in progress gets done, the GUI writes its settings, the publisher sends them, and they
are received, written, polled and applied. -/
def Round.events (round : Round) (system : WholeSystem) : List Event :=
  round.finishing.map Event.call ++
    (((if system.handOff.writing.isSome then [Event.gui round.settings] else []) ++
      [Event.gui round.settings, Event.gui round.settings]) ++
    ([Event.publisher round.turn,
      Event.deliver system.sent.length round.stripped round.now round.later round.strayTrip
        round.strayClose round.statSucceeds round.suffix] ++
    (round.writing.map Event.call ++ [Event.poll, Event.drain])))

/-- The write in progress gets done, whatever its calls return; `mkstemp` then finds a name that is
free, and the calls of the round succeed. -/
structure Round.Undisturbed (round : Round) (setup : SystemSetup) (system : WholeSystem) :
    Prop where
  finishing : WriteRequest.callBound ≤ round.finishing.countP SystemResult.completed
  fresh : (Machine.final (step setup) system (round.finishing.map .call)).station.files
    (gooseSharedFile ++ '.' :: round.suffix) = none
  writing : ∀ result ∈ round.writing, result.succeeded = true
  enough : WriteRequest.callBound ≤ round.writing.length

variable {setup : SystemSetup} {self : WholeSystem}

theorem final_calls (self : WholeSystem) (results : List SystemResult) :
    Machine.final (step setup) self (results.map .call) =
      { self with station :=
        Machine.final (BreakerStation.callStep setup.station) self.station results } := by
  induction results generalizing self with
  | nil => rfl
  | cons result results inductionHypothesis =>
    rw [List.map_cons, Machine.final, inductionHypothesis]
    rfl

/-- An update of the GUI that is not interrupted. -/
theorem HandOff.step_gui_gui {handOff : HandOff} (idle : handOff.writing = none)
    (record : GuiRecord) :
    ((handOff.step (.gui record)).1.step (.gui record)).1 =
      { handOff with file := record.line, completed := record, writing := none } := by
  rw [HandOff.step, HandOff.step, idle]

theorem HandOff.writing_step_gui {handOff : HandOff} (writes : handOff.writing.isSome = true)
    (record : GuiRecord) : (handOff.step (.gui record)).1.writing = none ∧
      (handOff.step (.gui record)).1.loop = handOff.loop := by
  obtain ⟨other, writing⟩ := Option.isSome_iff_exists.mp writes
  rw [HandOff.step, writing]
  exact ⟨rfl, rfl⟩

/-- The GUI gets done with an update and makes another, with the settings of a round. -/
theorem final_chosen (running : self.guiQuit = false) (settings : SliderSettings) :
    ∃ handOff : HandOff, handOff.file = settings.record.line ∧
      handOff.loop = self.handOff.loop ∧
      Machine.final (step setup) self
          ((if self.handOff.writing.isSome then [.gui settings] else []) ++
            [.gui settings, .gui settings]) =
        { self with handOff := handOff } := by
  have gui (handOff : HandOff) :
      (WholeSystem.step setup { self with handOff := handOff } (.gui settings)).1 =
        { self with handOff := (handOff.step (.gui settings.record)).1 } := by
    rw [step]
    simp only [running, Bool.false_eq_true, if_false]
  by_cases writes : self.handOff.writing.isSome = true
  · obtain ⟨idle, loop⟩ := HandOff.writing_step_gui writes settings.record
    have written := HandOff.step_gui_gui idle settings.record
    refine ⟨{ (self.handOff.step (.gui settings.record)).1 with
      file := settings.record.line, completed := settings.record, writing := none }, rfl, loop, ?_⟩
    rw [if_pos writes]
    show (WholeSystem.step setup (WholeSystem.step setup (WholeSystem.step setup
      { self with handOff := self.handOff } (.gui settings)).1 (.gui settings)).1
        (.gui settings)).1 = _
    rw [gui, gui, gui, written]
  · have idle : self.handOff.writing = none := by
      cases writing : self.handOff.writing with
      | none => rfl
      | some record =>
        rw [writing] at writes
        exact absurd rfl writes
    have written := HandOff.step_gui_gui idle settings.record
    refine ⟨{ self.handOff with
      file := settings.record.line, completed := settings.record, writing := none }, rfl, rfl, ?_⟩
    rw [if_neg writes]
    show (WholeSystem.step setup (WholeSystem.step setup { self with handOff := self.handOff }
      (.gui settings)).1 (.gui settings)).1 = _
    rw [gui, gui, written]

theorem guiQuit_final (initial : SliderSettings) (position : BreakerPosition)
    {events : List Event} (running : .quitGui ∉ events) :
    (Machine.final (step setup) (start setup initial position) events).guiQuit = false := by
  refine Machine.final_invariant_of_mem (step setup) (fun system => system.guiQuit = false) ?_ rfl
  intro system event member alive
  cases event with
  | quitGui => exact absurd member running
  | gui settings =>
    rw [step]
    split
    · exact alive
    · exact alive
  | deliver index stripped now later strayTrip strayClose statSucceeds suffix =>
    rw [step]
    split
    · exact alive
    · exact alive
  | _ => exact alive

/-- The publisher sends the settings that the file holds, and its packet arrives. -/
theorem final_delivered (running : self.guiQuit = false) (round : Round)
    (file : self.handOff.file = round.settings.record.line) {last : Message}
    (configured : self.handOff.loop.publisher = last.publisher setup.srcAddr) :
    ∃ (message : Message) (reception : Reception),
      message.dataset = HandOff.protectedValues round.settings.record ∧
      Arrives (message.frame setup.srcAddr) reception.frame ∧
      (Machine.final (step setup) self
        [.publisher round.turn,
          .deliver self.sent.length round.stripped round.now round.later round.strayTrip
            round.strayClose round.statSucceeds round.suffix]).station =
        (self.station.step setup.station
          (.frame reception round.statSucceeds round.suffix)).1 := by
  have found : self.guiFile = some round.settings.record.line := by
    rw [guiFile, running, file]
    rfl
  have turn := PublishLoop.publishData_eq configured
    (protectionLogic (readGuiData self.guiFile)) round.turn
  have packet := congrArg (fun taken => taken.2.packet) turn
  have values := self.handOff.loop.message_dataset last
    (protectionLogic (readGuiData self.guiFile)) round.turn
  dsimp only at packet
  generalize self.handOff.loop.message last
    (protectionLogic (readGuiData self.guiFile)) round.turn = message at packet values
  rw [found, readGuiData_line] at values
  refine ⟨message, ⟨arrival (message.frame setup.srcAddr) round.stripped, round.now, round.later,
    round.strayTrip, round.strayClose⟩, values, arrives_arrival _ _, ?_⟩
  have sent : (self.step setup (.publisher round.turn)).1.sent =
      self.sent ++ [message.frame setup.srcAddr] := by
    show self.sent ++ (self.handOff.loop.iterate ⟨self.guiFile, round.turn⟩).2.packet.toList = _
    rw [PublishLoop.iterate, packet]
    rfl
  have delivered : (self.step setup (.publisher round.turn)).1.sent[self.sent.length]? =
      some (message.frame setup.srcAddr) := by
    rw [sent, List.getElem?_concat_length]
  show (WholeSystem.step setup (self.step setup (.publisher round.turn)).1 _).1.station = _
  generalize publishes : (self.step setup (.publisher round.turn)).1 = published at delivered
  have station : published.station = self.station := by
    rw [← publishes]
    rfl
  rw [step, ← station]
  simp only [delivered]

/-- One undisturbed round, from any state that comes from settings. -/
theorem Fed.round {Known : SliderSettings → Prop} {display : BreakerDisplay}
    (fed : self.Fed Known setup display) (running : self.guiQuit = false) {round : Round}
    (undisturbed : round.Undisturbed setup self) :
    (Machine.final (WholeSystem.step setup) self (round.events self)).station.breaker.display =
      self.station.breaker.pending.apply
        (HandOff.protectedValues round.settings.record).record := by
  obtain ⟨last, configured⟩ := fed.handOff.configured
  obtain ⟨done, done_eq⟩ : ∃ done, done =
    Machine.final (BreakerStation.callStep setup.station) self.station round.finishing := ⟨_, rfl⟩
  have idle : done.writing = none := by
    rw [done_eq]
    exact BreakerStation.idle_final _ undisturbed.finishing
  have same : done.breaker = self.station.breaker := by
    rw [done_eq]
    exact BreakerStation.breaker_final _ _
  have still : done.Fed Known setup.files display := by
    rw [done_eq]
    exact Machine.final_invariant _ _ (fun _ result fed => fed.call result) fed.station _
  have fresh := undisturbed.fresh
  rw [final_calls, ← done_eq] at fresh
  obtain ⟨handOff, file, loop, chosen⟩ :=
    @final_chosen setup { self with station := done } running round.settings
  obtain ⟨message, reception, values, arrives, delivered⟩ :=
    @final_delivered setup { self with station := done, handOff := handOff } running round file last
      (by rw [loop]; exact configured)
  have shown := @BreakerStation.Fed.shows setup.station done Known setup.files display still idle
    message setup.srcAddr reception arrives round.statSucceeds round.suffix fresh
    round.writing undisturbed.writing undisturbed.enough
  rw [Round.events, Machine.final_append, final_calls, ← done_eq, Machine.final_append, chosen,
    Machine.final_append, Machine.final_append, final_calls, delivered]
  rw [same] at shown
  rw [← values]
  exact shown

/-- From every state that any run of the whole system can reach while the protection GUI is
running, one undisturbed round makes the display show what the publisher computes for the settings
of the round, and puts the breaker where they put it from where the queue had put it. -/
theorem chosen_settings_take_effect (setup : SystemSetup) (initial : SliderSettings)
    (position : BreakerPosition) (events : List Event) (running : .quitGui ∉ events)
    (round : Round)
    (undisturbed : round.Undisturbed setup
      (Machine.final (step setup) (start setup initial position) events)) :
    let system := Machine.final (step setup) (start setup initial position) events
    let after := Machine.final (step setup) system (round.events system)
    let before := system.station.breaker.pending
    after.station.breaker.display =
        before.apply (HandOff.protectedValues round.settings.record).record ∧
      after.station.breaker.display.breakerStatus =
        if round.settings.Tripping then .opened
        else if round.settings.close then .closed
        else before.breakerStatus := by
  intro system after before
  have shown := (fed_final setup initial position events).round
    (guiQuit_final initial position running) undisturbed
  refine ⟨shown, ?_⟩
  have trip := tripCommand_record round.settings
  have close : (HandOff.protectedValues round.settings.record).closeCommand =
      round.settings.close := by
    rw [HandOff.protectedValues, closeCommand_protectionLogic]
    show decide (flagWord round.settings.close ≠ 0) = round.settings.close
    cases round.settings.close <;> decide
  rw [shown]
  show (HandOff.protectedValues round.settings.record).record.operate before.breakerStatus = _
  rw [Dataset.operate_record, Dataset.operate, close]
  exact if_congr trip rfl rfl

/-- The GUI is in the middle of an update and the subscriber program in the middle of a write,
whose calls then all fail, when a current of 4000 A is chosen. -/
theorem overcurrent_takes_effect_after_failed_write :
    let setup : SystemSetup :=
      ⟨⟨[2, 0, 0, 0, 0, 1], rfl⟩, 1000, ⟨⟨none, none⟩, ⟨0, 0⟩, ⟨1000, 1000⟩, ⟨1000, 1000⟩⟩,
        fun _ => none, ⟨1000, 1000⟩, 0o664, []⟩
    let initial : SliderSettings := ⟨false, true, 0, 12505, 105, ⟨498, by decide, by decide⟩⟩
    let chosen : SliderSettings := { initial with current := 40000 }
    let events : List Event :=
      [.publisher 2000, .deliver 0 true 2001 2001 false false true "aaaaaa".toList,
        .call (.success 0), .call (.success 0), .gui initial]
    let round : Round :=
      ⟨chosen, List.replicate 139 .failure, 3000, false, 3001, 3001, false, false, false,
        "bbbbbb".toList, List.replicate 139 (.success 3)⟩
    let system := Machine.final (step setup) (start setup initial .closed) events
    (Machine.final (step setup) system (round.events system)).station.breaker.display.breakerStatus
      = .opened := by
  intro setup initial chosen events round
  have running : .quitGui ∉ events := by simp [events]
  have undisturbed : round.Undisturbed setup
      (Machine.final (step setup) (start setup initial .closed) events) := by
    refine ⟨?_, by decide +kernel, ?_, ?_⟩
    · rw [List.countP_replicate]
      exact Nat.le_refl 139
    · intro result member
      rw [List.eq_of_mem_replicate member]
      rfl
    · exact List.length_replicate.ge
  have tripping : chosen.Tripping := .inr (.inr (.inl (by decide +kernel)))
  have effect := chosen_settings_take_effect setup initial .closed events running round undisturbed
  exact effect.2.trans (if_pos tripping)

end WholeSystem

end Substation
