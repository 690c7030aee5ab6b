/-
This file is the breaker side with its programs as they really run: the subscriber
program takes a frame, reads it and then makes the system calls of
`writeSharedDataset` one by one, each with any result; the breaker GUI polls the
shared file between any two of them, as another user; and the permission guard of
`start_breaker.sh` changes its owner and mode at any time. The subscriber program
may also stop for good, when its listener reads through `NULL`.

The main result is that the shared file and the GUI go through the states of the
system in which a message replaces the file in one step, one message for each
rename that succeeds, and that the files left besides it are the temporary files
whose `unlink` failed.
-/

import Substation.BreakerSystem
import Substation.SharedFile

namespace Substation

open Decimal

/-! ### The two programs and the files -/

/-- The subscriber program, with the call that comes next when it is in `writeSharedDataset`. -/
structure Listener where
  buffer : List UInt8
  subscriber : GooseSubscriber
  ownership : FileOwnership
  writing : Option (WriteRequest × Stage)

structure BreakerStation where
  /-- There is none once the program has stopped. -/
  listener : Option Listener
  files : Files.Store Text FileEntry
  breaker : BreakerIed

/-- The environment and the ids of the subscriber program, the ids of the breaker GUI, and those
to which the permission guard gives the file. -/
structure StationSetup where
  environment : OwnerEnvironment
  process : FileOwner
  reader : FileOwner
  caller : FileOwner

/-- The permission to read, as the first class that fits decides it. -/
def FileEntry.readableBy (self : FileEntry) (reader : FileOwner) : Bool :=
  reader.uid = 0 ||
    if self.owner.uid = reader.uid then self.mode.testBit 8
    else if self.owner.gid = reader.gid then self.mode.testBit 5
    else self.mode.testBit 2

/-- The `chown` of the guard. -/
def StationSetup.giveToCaller (setup : StationSetup) (entry : FileEntry) : FileEntry :=
  entry.chown setup.caller.uid setup.caller.gid

/-- The `chmod` of the guard. -/
def FileEntry.openUp (self : FileEntry) : FileEntry := { self with mode := gooseFileMode }

/-- What a poll of the GUI finds. -/
def StationSetup.poll (setup : StationSetup) (files : Files.Store Text FileEntry) : PollOutcome :=
  match files gooseSharedFile with
  | none => .missing
  | some entry =>
    if entry.readableBy setup.reader then .content entry.content else .permissionDenied

namespace Listener

def start (buffer : List UInt8) : Listener where
  buffer := buffer
  subscriber := GooseSubscriber.create
  ownership := .start
  writing := none

/-- The program as if the shared file were its own. -/
def program (self : Listener) (files : Files.Store Text FileEntry) : SubscriberProgram :=
  ⟨self.buffer, self.subscriber, readShared files⟩

/-- A frame up to the first call of `writeSharedDataset`. It waits while a call of the listener is
not done. -/
def receive (setup : StationSetup) (self : Listener) (files : Files.Store Text FileEntry)
    (reception : Reception) (existing : Option FileOwner) (suffix : Text) : Option Listener :=
  match self.writing with
  | some _ => some self
  | none =>
    ((self.program files).step reception).map fun taken =>
      match taken.2 with
      | none => { self with buffer := taken.1.buffer, subscriber := taken.1.subscriber }
      | some call =>
        { buffer := taken.1.buffer
          subscriber := taken.1.subscriber
          ownership := self.ownership.initFileOwnership setup.environment existing
          writing := call.dataset.map fun dataset => (⟨dataset, suffix, setup.process⟩, .snprintf) }

/-- The program after a call of `writeSharedDataset`, which may be its last. -/
def resume (self : Listener) (request : WriteRequest) (state : WriteState) : Listener :=
  { self with
    ownership := state.ownership
    writing := match state.stage with
      | .returned _ => none
      | stage => some (request, stage) }

end Listener

namespace BreakerStation

inductive Event
  /-- A frame is there, `initFileOwnership` finds the shared file or fails to, and `mkstemp` will
  take some characters. -/
  | frame (reception : Reception) (statSucceeds : Bool) (suffix : Text)
  /-- The next call of `writeSharedDataset` returns. -/
  | call (result : SystemResult)
  /-- The `chown` of `start_permission_guard`, and its `chmod`. -/
  | guardChown (succeeds : Bool)
  | guardChmod (succeeds : Bool)
  | poll
  | drain

/-- A change that the guard makes to the file, where there is one. -/
def guard (self : BreakerStation) (succeeds : Bool) (change : FileEntry → FileEntry) :
    BreakerStation :=
  { self with files := if succeeds then Files.modify self.files gooseSharedFile change
    else self.files }

/-- One event. It is put out as an event of the breaker system when it is a rename that succeeds,
a poll that may read the file, or a drain. -/
def step (setup : StationSetup) (self : BreakerStation) :
    Event → BreakerStation × Option BreakerSystem.Event
  | .frame reception statSucceeds suffix =>
    match self.listener with
    | none => (self, none)
    | some listener =>
      let existing := if statSucceeds then (self.files gooseSharedFile).map FileEntry.owner
        else none
      ({ self with
        listener := listener.receive setup self.files reception existing suffix }, none)
  | .call result =>
    match self.listener with
    | none => (self, none)
    | some listener =>
      match listener.writing with
      | none => (self, none)
      | some (request, stage) =>
        let state := (request.step ⟨stage, self.files, listener.ownership⟩ result).1
        ({ self with listener := some (listener.resume request state), files := state.files },
          if stage = .rename ∧ result.succeeded = true then some (.message request.dataset)
          else none)
  | .guardChown succeeds => (self.guard succeeds setup.giveToCaller, none)
  | .guardChmod succeeds => (self.guard succeeds FileEntry.openUp, none)
  | .poll =>
    let outcome := setup.poll self.files
    ({ self with breaker := (self.breaker.runSubscriber outcome).1 },
      match outcome with
      | .permissionDenied => none
      | _ => some .poll)
  | .drain => ({ self with breaker := self.breaker.processQueue }, some .drain)

/-- Before the first frame, with any files, and the GUI in any state. -/
def start (buffer : List UInt8) (files : Files.Store Text FileEntry) (breaker : BreakerIed) :
    BreakerStation where
  listener := some (.start buffer)
  files := files
  breaker := breaker

end BreakerStation

/-! ### One call of the function -/

namespace WriteRequest

variable {request : WriteRequest} {initial : Files.Store Text FileEntry} {left : Prop}
  {state : WriteState}

/-- A reader finds the line after a rename that succeeds, and what it found before after any other
call. -/
theorem Consistent.readShared_step (consistent : request.Consistent initial left state)
    {result : SystemResult} (fails : UnlinkFails state result → left) :
    readShared (request.step state result).1.files =
      if state.stage = .rename ∧ result.succeeded = true then some request.line
      else readShared state.files := by
  have next := consistent_step state result fails consistent
  have moves := request.afterRename_step state result
  by_cases after : state.stage.afterRename
  · have not_rename : ¬ (state.stage = .rename ∧ result.succeeded = true) := by
      rintro ⟨atRename, -⟩
      rw [atRename] at after
      exact after
    rw [if_neg not_rename, next.readShared_of_afterRename (moves.mpr (.inl after)),
      consistent.readShared_of_afterRename after]
  · rw [or_iff_right after] at moves
    by_cases renames : state.stage = .rename ∧ result.succeeded = true
    · rw [if_pos renames, next.readShared_of_afterRename (moves.mpr renames)]
    · rw [if_neg renames, next.readShared_of_not_afterRename (mt moves.mp renames),
        consistent.readShared_of_not_afterRename after]

/-- A file that was there before the function began is none of its own. -/
theorem Consistent.kept (consistent : request.Consistent initial left state) {path : Text}
    {entry : FileEntry} (found : initial path = some entry) (different : path ≠ gooseSharedFile) :
    state.files path = some entry := by
  obtain ⟨stage, files, ownership⟩ := state
  have pending {text : Text} (pending : request.Pending initial files text) :
      files path = some entry := by
    have other : path ≠ request.temporaryFile := by
      rintro rfl
      cases pending.fresh.symm.trans found
    exact (pending.others path other).trans found
  have replaced (replaced : request.Replaced initial files) : files path = some entry :=
    (replaced.others path different).trans found
  have unchanged (same : files = initial) : files path = some entry := by rw [same, found]
  cases stage with
  | snprintf => exact unchanged consistent
  | stat => exact unchanged consistent
  | mkstemp => exact unchanged consistent
  | abandon => exact consistent.elim fun text => pending
  | unlink => exact consistent.elim fun text => pending
  | chown => exact replaced consistent
  | chmod => exact replaced consistent
  | returned renamed =>
    cases renamed with
    | true => exact replaced consistent
    | false => exact consistent.elim unchanged fun left => left.2.elim fun text => pending
  | _ => exact pending consistent

/-- A change of the shared file beside a call of the function, as if it had been made before. -/
theorem Pending.beside {files : Files.Store Text FileEntry} {text : Text}
    (pending : request.Pending initial files text) (change : FileEntry → FileEntry) :
    request.Pending (Files.modify initial gooseSharedFile change)
      (Files.modify files gooseSharedFile change) text where
  fresh := by
    rw [Files.modify_other initial request.temporaryFile_ne]
    exact pending.fresh
  content := by
    rw [Files.modify_other files request.temporaryFile_ne]
    exact pending.content
  others path different := by
    by_cases shared : path = gooseSharedFile
    · rw [shared, Files.modify_self, Files.modify_self,
        pending.others _ request.temporaryFile_ne.symm]
    · rw [Files.modify_other files shared, Files.modify_other initial shared]
      exact pending.others path different

theorem Replaced.beside {files : Files.Store Text FileEntry}
    (replaced : request.Replaced initial files) {change : FileEntry → FileEntry}
    (kept : ∀ entry, (change entry).content = entry.content) :
    request.Replaced (Files.modify initial gooseSharedFile change)
      (Files.modify files gooseSharedFile change) where
  content := (replaced.modify kept).content
  others path different := by
    rw [Files.modify_other initial different]
    exact (replaced.modify kept).others path different

theorem Consistent.beside (consistent : request.Consistent initial left state)
    {change : FileEntry → FileEntry} (kept : ∀ entry, (change entry).content = entry.content) :
    request.Consistent (Files.modify initial gooseSharedFile change) left
      { state with files := Files.modify state.files gooseSharedFile change } := by
  obtain ⟨stage, files, ownership⟩ := state
  have unchanged (same : files = initial) : Files.modify files gooseSharedFile change =
      Files.modify initial gooseSharedFile change := by rw [same]
  cases stage with
  | snprintf => exact unchanged consistent
  | stat => exact unchanged consistent
  | mkstemp => exact unchanged consistent
  | abandon =>
    obtain ⟨text, pending⟩ := consistent
    exact ⟨text, Pending.beside pending change⟩
  | unlink =>
    obtain ⟨text, pending⟩ := consistent
    exact ⟨text, Pending.beside pending change⟩
  | chown => exact Replaced.beside consistent kept
  | chmod => exact Replaced.beside consistent kept
  | returned renamed =>
    cases renamed with
    | true => exact Replaced.beside consistent kept
    | false =>
      rcases consistent with same | ⟨isLeft, text, pending⟩
      · exact .inl (unchanged same)
      · exact .inr ⟨isLeft, text, Pending.beside pending change⟩
  | _ => exact Pending.beside consistent change

end WriteRequest

/-! ### The system with one step for each message -/

/-- Besides the shared file, no file has gone or changed, and those that have come are `Left`. -/
def OnlyShared (Left : Text → Prop) (base files : Files.Store Text FileEntry) : Prop :=
  ∀ path, path ≠ gooseSharedFile → files path = base path ∨ base path = none ∧ Left path

theorem onlyShared_refl (Left : Text → Prop) (files : Files.Store Text FileEntry) :
    OnlyShared Left files files :=
  fun _ _ => .inl rfl

theorem OnlyShared.trans {Left : Text → Prop} {base initial files : Files.Store Text FileEntry}
    (first : OnlyShared Left base initial) (second : OnlyShared Left initial files) :
    OnlyShared Left base files := by
  intro path different
  rcases second path different with same | ⟨absent, isLeft⟩
  · rw [same]
    exact first path different
  · rcases first path different with same | left
    · exact .inr ⟨same.symm.trans absent, isLeft⟩
    · exact .inr left

theorem OnlyShared.modify {Left : Text → Prop} {base files : Files.Store Text FileEntry}
    (only : OnlyShared Left base files) (change : FileEntry → FileEntry) :
    OnlyShared Left base (Files.modify files gooseSharedFile change) :=
  only.trans fun _ different => .inl (Files.modify_other files different change)

/-- Two states of the GUI that differ at most in the warning about the permission. -/
structure BreakerIed.SameView (first second : BreakerIed) : Prop where
  display : first.display = second.display
  dataQueue : first.dataQueue = second.dataQueue
  lastPayload : first.lastPayload = second.lastPayload

theorem BreakerIed.SameView.accept {first second : BreakerIed} (same : first.SameView second)
    (payload : Text) : (first.accept payload).SameView (second.accept payload) := by
  unfold BreakerIed.accept
  rw [same.lastPayload]
  split_ifs
  · exact same
  · exact same
  · cases GooseRecord.ofPayload payload with
    | none => exact same
    | some record => exact ⟨same.display, congrArg (· ++ [record]) same.dataQueue, rfl⟩

theorem BreakerIed.sameView_denied (breaker : BreakerIed) :
    (breaker.runSubscriber .permissionDenied).1.SameView breaker := by
  rw [runSubscriber]
  split
  · exact ⟨rfl, rfl, rfl⟩
  · exact ⟨rfl, rfl, rfl⟩

theorem BreakerIed.SameView.trans {first second third : BreakerIed}
    (left : first.SameView second) (right : second.SameView third) : first.SameView third :=
  ⟨left.display.trans right.display, left.dataQueue.trans right.dataQueue,
    left.lastPayload.trans right.lastPayload⟩

/-- A frame waits, stops the program, is ignored, or makes it call its listener. -/
theorem Listener.receive_cases (setup : StationSetup) (self : Listener)
    (files : Files.Store Text FileEntry) (reception : Reception) (existing : Option FileOwner)
    (suffix : Text) {after : Option Listener}
    (received : self.receive setup files reception existing suffix = after) :
    (self.writing ≠ none ∧ after = some self) ∨
      self.writing = none ∧
        ((self.program files).step reception = none ∧ after = none ∨
          (∃ next, (self.program files).step reception = some (next, none) ∧
            after = some { self with buffer := next.buffer, subscriber := next.subscriber }) ∨
          ∃ next call, (self.program files).step reception = some (next, some call) ∧
            after = some
              { buffer := next.buffer
                subscriber := next.subscriber
                ownership := self.ownership.initFileOwnership setup.environment existing
                writing := call.dataset.map fun dataset =>
                  (⟨dataset, suffix, setup.process⟩, .snprintf) }) := by
  rw [receive] at received
  cases writing : self.writing with
  | some pair =>
    rw [writing] at received
    exact .inl ⟨Option.some_ne_none pair, received.symm⟩
  | none =>
    refine .inr ⟨rfl, ?_⟩
    rw [writing] at received
    cases taken : (self.program files).step reception with
    | none =>
      rw [taken] at received
      exact .inl ⟨rfl, received.symm⟩
    | some pair =>
      rw [taken] at received
      obtain ⟨next, output⟩ := pair
      cases output with
      | none =>
        refine .inr (.inl ⟨next, rfl, ?_⟩)
        exact received.symm
      | some call => exact .inr (.inr ⟨next, call, rfl, received.symm⟩)

namespace BreakerStation

/-- The call of `writeSharedDataset` that the subscriber program is in. -/
def writing (self : BreakerStation) : Option (WriteRequest × Stage) :=
  self.listener.bind Listener.writing

/-- The next call of the program is the `unlink` of a temporary file, and it fails. -/
def LeavesBehind (path : Text) (self : BreakerStation) (event : Event) : Prop :=
  ∃ request result, self.writing = some (request, .unlink) ∧ request.temporaryFile = path ∧
    event = .call result ∧ result.succeeded = false

/-- While the program is in no call no other file has changed, and in a call the files are as its
next system call needs them. Files that could not be removed are `Left`. -/
def Tidy (Left : Text → Prop) (base : Files.Store Text FileEntry) (self : BreakerStation) : Prop :=
  match self.writing with
  | none => OnlyShared Left base self.files
  | some (request, stage) => ∃ initial ownership, OnlyShared Left base initial ∧
      request.Consistent initial (Left request.temporaryFile) ⟨stage, self.files, ownership⟩

variable {setup : StationSetup} {Left : Text → Prop} {base : Files.Store Text FileEntry}
  {self : BreakerStation}

theorem Tidy.of_writing {next : BreakerStation} (tidy : self.Tidy Left base)
    (files : next.files = self.files) (writing : next.writing = self.writing) :
    next.Tidy Left base := by
  rw [Tidy, writing, files]
  exact tidy

theorem Tidy.frame (tidy : self.Tidy Left base) (reception : Reception) (statSucceeds : Bool)
    (suffix : Text) :
    (self.step setup (.frame reception statSucceeds suffix)).1.Tidy Left base := by
  cases listening : self.listener with
  | none =>
    rw [step]
    simp only [listening]
    exact tidy
  | some listener =>
    rw [step]
    simp only [listening]
    generalize received : listener.receive setup self.files reception _ suffix = after
    have before : self.writing = listener.writing := by
      rw [BreakerStation.writing, listening, Option.bind_some]
    rcases listener.receive_cases setup self.files reception _ suffix received with
      ⟨-, rfl⟩ | ⟨idle, ⟨-, rfl⟩ | ⟨next, -, rfl⟩ | ⟨next, call, -, rfl⟩⟩
    · exact tidy.of_writing rfl before.symm
    · exact tidy.of_writing rfl (before.trans idle).symm
    · exact tidy.of_writing rfl before.symm
    · rw [Tidy, before, idle] at tidy
      rw [Tidy]
      cases call.dataset with
      | none => exact tidy
      | some dataset => exact ⟨self.files, .start, tidy, rfl⟩

theorem writing_resume (listener : Listener) (request : WriteRequest) (state : WriteState) :
    (∃ renamed, state.stage = .returned renamed ∧
        (listener.resume request state).writing = none) ∨
      (listener.resume request state).writing = some (request, state.stage) := by
  rw [Listener.resume]
  obtain ⟨stage, files, ownership⟩ := state
  cases stage with
  | returned renamed => exact .inl ⟨renamed, rfl, rfl⟩
  | _ => exact .inr rfl

theorem Tidy.call {listener : Listener} (listening : self.listener = some listener)
    {request : WriteRequest} {stage : Stage} (writing : listener.writing = some (request, stage))
    (tidy : self.Tidy Left base) {result : SystemResult}
    (leaves : ∀ path, self.LeavesBehind path (.call result) → Left path) :
    let state := (request.step ⟨stage, self.files, listener.ownership⟩ result).1
    BreakerStation.Tidy Left base
        ⟨some (listener.resume request state), state.files, self.breaker⟩ ∧
      readShared state.files = if stage = .rename ∧ result.succeeded = true then some request.line
        else readShared self.files := by
  intro state
  have before : self.writing = some (request, stage) := by
    rw [BreakerStation.writing, listening, Option.bind_some, writing]
  rw [Tidy, before] at tidy
  obtain ⟨initial, ownership, shared, consistent⟩ := tidy
  have now : request.Consistent initial (Left request.temporaryFile)
      ⟨stage, self.files, listener.ownership⟩ := consistent
  have fails : WriteRequest.UnlinkFails ⟨stage, self.files, listener.ownership⟩ result →
      Left request.temporaryFile := by
    rintro ⟨atUnlink, failed⟩
    have removing : self.writing = some (request, .unlink) := by
      rw [before, show stage = .unlink from atUnlink]
    exact leaves _ ⟨request, result, removing, rfl, rfl, failed⟩
  have next := WriteRequest.consistent_step _ result fails now
  refine ⟨?_, now.readShared_step fails⟩
  rw [Tidy, BreakerStation.writing, Option.bind_some]
  rcases writing_resume listener request state with ⟨renamed, returned, done⟩ | still
  · rw [done]
    refine shared.trans fun path different => ?_
    rcases next.others_of_returned returned different with same | ⟨absent, rfl, isLeft⟩
    · exact .inl same
    · exact .inr ⟨absent, isLeft⟩
  · rw [still]
    exact ⟨initial, state.ownership, shared, next⟩

/-- The guard changes neither the content of the shared file nor any other file. -/
theorem Tidy.guard (tidy : self.Tidy Left base) (succeeds : Bool)
    (change : FileEntry → FileEntry) (kept : ∀ entry, (change entry).content = entry.content) :
    (self.guard succeeds change).Tidy Left base ∧
      readShared (self.guard succeeds change).files = readShared self.files := by
  rw [BreakerStation.guard]
  split
  · refine ⟨?_, ?_⟩
    · rw [Tidy] at tidy ⊢
      show match self.writing with
        | none => OnlyShared Left base (Files.modify self.files gooseSharedFile change)
        | some (request, stage) => _
      cases writing : self.writing with
      | none =>
        rw [writing] at tidy
        exact OnlyShared.modify tidy change
      | some pair =>
        rw [writing] at tidy
        obtain ⟨initial, ownership, shared, consistent⟩ := tidy
        exact ⟨_, ownership, shared.modify change, consistent.beside kept⟩
    · show Option.map _ (Files.modify self.files gooseSharedFile change gooseSharedFile) = _
      rw [readShared, Files.modify_self, Option.map_map]
      exact Option.map_congr fun entry _ => kept entry
  · exact ⟨tidy, rfl⟩

/-- The station, and the system with one step for each message. -/
structure Refines (Left : Text → Prop) (base : Files.Store Text FileEntry)
    (station : BreakerStation) (system : BreakerSystem) : Prop where
  tidy : station.Tidy Left base
  file : readShared station.files = system.file
  view : station.breaker.SameView system.breaker

theorem Refines.poll {system : BreakerSystem} (refines : self.Refines Left base system) :
    (self.step setup .poll).1.Refines Left base
      (Machine.final BreakerSystem.step system (self.step setup .poll).2.toList) := by
  have file := refines.file
  rw [readShared] at file
  rw [step, StationSetup.poll]
  cases found : self.files gooseSharedFile with
  | none =>
    rw [found, Option.map_none] at file
    refine ⟨refines.tidy, refines.file, ?_⟩
    show self.breaker.SameView (system.breaker.runSubscriber (.ofFile system.file)).1
    rw [← file]
    exact refines.view
  | some entry =>
    rw [found, Option.map_some] at file
    dsimp only
    split
    · refine ⟨refines.tidy, refines.file, ?_⟩
      show (self.breaker.runSubscriber (.content entry.content)).1.SameView
        (system.breaker.runSubscriber (.ofFile system.file)).1
      rw [← file]
      have cleared : ({ self.breaker with permissionWarning := false } : BreakerIed).SameView
          { system.breaker with permissionWarning := false } :=
        ⟨refines.view.display, refines.view.dataQueue, refines.view.lastPayload⟩
      exact cleared.accept (strip entry.content)
    · exact ⟨refines.tidy, refines.file, self.breaker.sameView_denied.trans refines.view⟩

theorem Refines.step {system : BreakerSystem} (refines : self.Refines Left base system)
    {event : Event} (leaves : ∀ path, self.LeavesBehind path event → Left path) :
    (self.step setup event).1.Refines Left base
      (Machine.final BreakerSystem.step system (self.step setup event).2.toList) := by
  cases event with
  | frame reception statSucceeds suffix =>
    have tidy := @Tidy.frame setup Left base self refines.tidy reception statSucceeds suffix
    rw [BreakerStation.step] at tidy ⊢
    cases listening : self.listener with
    | none => exact refines
    | some listener =>
      simp only [listening] at tidy
      exact ⟨tidy, refines.file, refines.view⟩
  | call result =>
    rw [BreakerStation.step]
    cases listening : self.listener with
    | none => exact refines
    | some listener =>
      cases writing : listener.writing with
      | none =>
        simp only [writing]
        exact refines
      | some pair =>
        obtain ⟨request, stage⟩ := pair
        obtain ⟨tidy, file⟩ := refines.tidy.call listening writing leaves
        simp only [writing]
        by_cases renames : stage = .rename ∧ result.succeeded = true
        · rw [if_pos renames] at file ⊢
          exact ⟨tidy, file, refines.view⟩
        · rw [if_neg renames] at file ⊢
          exact ⟨tidy, file.trans refines.file, refines.view⟩
  | guardChown succeeds =>
    obtain ⟨tidy, file⟩ := refines.tidy.guard succeeds setup.giveToCaller fun entry => rfl
    exact ⟨tidy, file.trans refines.file, refines.view⟩
  | guardChmod succeeds =>
    obtain ⟨tidy, file⟩ := refines.tidy.guard succeeds FileEntry.openUp fun entry => rfl
    exact ⟨tidy, file.trans refines.file, refines.view⟩
  | poll => exact refines.poll
  | drain =>
    refine ⟨refines.tidy, refines.file, ?_, rfl, refines.view.lastPayload⟩
    show List.foldl _ _ _ = List.foldl _ _ _
    rw [refines.view.display, refines.view.dataQueue]

theorem Tidy.step (tidy : self.Tidy Left base) {event : Event}
    (leaves : ∀ path, self.LeavesBehind path event → Left path) :
    (self.step setup event).1.Tidy Left base :=
  have refines : self.Refines Left base ⟨readShared self.files, self.breaker⟩ :=
    ⟨tidy, rfl, rfl, rfl, rfl⟩
  (refines.step leaves).tidy

theorem tidy_start (Left : Text → Prop) (buffer : List UInt8) (files : Files.Store Text FileEntry)
    (breaker : BreakerIed) : (start buffer files breaker).Tidy Left files :=
  onlyShared_refl Left files

/-- A run keeps the files tidy when anything may be left behind. -/
theorem Tidy.final (tidy : self.Tidy (fun _ => True) base) (setup : StationSetup)
    (events : List Event) :
    (Machine.final (BreakerStation.step setup) self events).Tidy (fun _ => True) base :=
  Machine.final_invariant (BreakerStation.step setup) (Tidy (fun _ => True) base)
    (fun _ _ tidy => tidy.step fun _ _ => trivial) tidy events

/-! ### What is left behind -/

/-- A file that was there at first is there still. -/
theorem Tidy.kept (tidy : self.Tidy Left base) {path : Text} {entry : FileEntry}
    (found : base path = some entry) (different : path ≠ gooseSharedFile) :
    self.files path = some entry := by
  have same {files : Files.Store Text FileEntry} (only : OnlyShared Left base files) :
      files path = some entry := by
    rcases only path different with same | ⟨absent, -⟩
    · exact same.trans found
    · cases absent.symm.trans found
  rw [Tidy] at tidy
  cases writing : self.writing with
  | none =>
    rw [writing] at tidy
    exact same tidy
  | some pair =>
    rw [writing] at tidy
    obtain ⟨initial, ownership, shared, consistent⟩ := tidy
    exact consistent.kept (same shared) different

/-- A temporary file whose `unlink` fails was not there at first, and the program has done with
it. -/
theorem Tidy.leavesBehind (tidy : self.Tidy Left base) {path : Text} {event : Event}
    (leaves : self.LeavesBehind path event) :
    base path = none ∧ path ≠ gooseSharedFile ∧ (self.step setup event).1.writing = none ∧
      ∃ entry, (self.step setup event).1.files path = some entry := by
  obtain ⟨request, result, writing, rfl, rfl, failed⟩ := leaves
  obtain ⟨listener, listening, atUnlink⟩ := Option.bind_eq_some_iff.mp writing
  rw [Tidy, writing] at tidy
  obtain ⟨initial, ownership, shared, text, pending⟩ := tidy
  have absent : base request.temporaryFile = none := by
    rcases shared _ request.temporaryFile_ne with same | ⟨absent, -⟩
    · exact same.symm.trans pending.fresh
    · exact absent
  obtain ⟨entry, found, -⟩ := Option.map_eq_some_iff.mp pending.content
  rw [BreakerStation.step]
  simp only [listening, atUnlink, WriteRequest.step, failed, Bool.false_eq_true, if_false]
  exact ⟨absent, request.temporaryFile_ne, rfl, entry, found⟩

/-- What could not be removed stays for the rest of the run. -/
theorem files_of_leavesBehind (setup : StationSetup) (buffer : List UInt8)
    (files : Files.Store Text FileEntry) (breaker : BreakerIed) {events : List Event} {path : Text}
    (left : Machine.Occurs (BreakerStation.step setup) (LeavesBehind path)
      (start buffer files breaker) events) :
    files path = none ∧ ∃ entry,
      (Machine.final (BreakerStation.step setup) (start buffer files breaker) events).files path =
        some entry := by
  obtain ⟨index, event, found, leaves⟩ := left
  have before := (tidy_start _ buffer files breaker).final setup (events.take index)
  obtain ⟨absent, different, idle, entry, there⟩ :=
    @Tidy.leavesBehind setup _ files _ before path event leaves
  have taken := Machine.final_take_succ (BreakerStation.step setup) (start buffer files breaker)
    found
  rw [← taken] at idle there
  have since : BreakerStation.Tidy (fun _ => True) (Machine.final (BreakerStation.step setup)
      (start buffer files breaker) (events.take (index + 1))).files
      (Machine.final (BreakerStation.step setup) (start buffer files breaker)
        (events.take (index + 1))) := by
    rw [Tidy, idle]
    exact onlyShared_refl _ _
  have after := since.final setup (events.drop (index + 1))
  rw [← Machine.final_append, List.take_append_drop] at after
  exact ⟨absent, entry, after.kept there different⟩

/-- For every run, of any frames and with any results of the system calls, the guard and polls
between any two of them and at any time: the shared file and the GUI are those of the system in
which a message replaces the file in one step, when it takes one message for each rename that
succeeds and the polls and drains of the run. Besides the shared file, and whenever the subscriber
program is in no call of the function or has stopped, no file has gone or changed, and those that
have come are the temporary files whose `unlink` failed. -/
theorem station_refines_breaker_system (setup : StationSetup) (buffer : List UInt8)
    (files : Files.Store Text FileEntry) (breaker : BreakerIed) (events : List Event) :
    let station := Machine.final (step setup) (start buffer files breaker) events
    let system := Machine.final BreakerSystem.step ⟨readShared files, breaker⟩
      (Machine.outputs (step setup) (start buffer files breaker) events).reduceOption
    let left (path : Text) := Machine.Occurs (step setup) (LeavesBehind path)
      (start buffer files breaker) events
    readShared station.files = system.file ∧ station.breaker.SameView system.breaker ∧
      (station.writing = none → ∀ path, path ≠ gooseSharedFile →
        station.files path = files path ∨ files path = none ∧ left path) ∧
      ∀ path, left path → files path = none ∧ ∃ entry, station.files path = some entry := by
  intro station system left
  have initially : (start buffer files breaker).Refines left files ⟨readShared files, breaker⟩ :=
    ⟨tidy_start left buffer files breaker, rfl, rfl, rfl, rfl⟩
  have refines : station.Refines left files system := by
    refine Machine.final_stuttering (step setup) BreakerSystem.step (Refines left files)
      (fun _ _ _ refines leaves => refines.step leaves) initially ?_
    intro index event found path leaves
    exact ⟨index, event, found, leaves⟩
  refine ⟨refines.file, refines.view, fun idle => ?_,
    fun path => files_of_leavesBehind setup buffer files breaker⟩
  have tidy := refines.tidy
  rw [Tidy, idle] at tidy
  exact tidy

end BreakerStation

end Substation
