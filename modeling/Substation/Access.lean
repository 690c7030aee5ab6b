/-
This file follows the owner and the mode of the shared file through the system
calls of the subscriber program and of the permission guard. Each write puts a file
of the program's own in the place of the one that the start script gave to the user
of the breaker GUI; the GUI can go on reading because the new file is opened up and
given away before the rename.

The main results are that in every run in which no `fchmod` and no `fchown` fails
every poll can read the file, whatever other calls fail, and that in every run a
`chmod` of the guard opens the file up until the next rename.
-/

import Substation.Station

namespace Substation

open Decimal

/-! ### Owners and modes -/

/-- The owners that the shared file may have: that of the original file, the caller of the start
script, and what the variables say. -/
def StationSetup.KnownUid (setup : StationSetup) (original : FileEntry) (uid : BitVec 32) : Prop :=
  uid = original.owner.uid ∨ uid = setup.caller.uid ∨ ownerId setup.environment.uid = some uid

def StationSetup.KnownGid (setup : StationSetup) (original : FileEntry) (gid : BitVec 32) : Prop :=
  gid = original.owner.gid ∨ gid = setup.caller.gid ∨ ownerId setup.environment.gid = some gid

/-- A file of known owner and group. -/
structure FileOwner.Known (setup : StationSetup) (original : FileEntry) (owner : FileOwner) :
    Prop where
  uid : setup.KnownUid original owner.uid
  gid : setup.KnownGid original owner.gid

/-- No known id is the one that `chown` ignores. -/
structure StationSetup.Proper (setup : StationSetup) (original : FileEntry) : Prop where
  uid : ¬ setup.KnownUid original (-1)
  gid : ¬ setup.KnownGid original (-1)

/-- The shared file is there, and has a known owner and the original mode or the mode `0664`. -/
def Accessible (setup : StationSetup) (original : FileEntry)
    (files : Files.Store Text FileEntry) : Prop :=
  ∃ entry, files gooseSharedFile = some entry ∧ entry.owner.Known setup original ∧
    (entry.mode = original.mode ∨ entry.mode = gooseFileMode)

/-- Both targets are there, and known. -/
def FileOwnership.Targets (setup : StationSetup) (original : FileEntry)
    (ownership : FileOwnership) : Prop :=
  ownership.ownershipInitialized = true ∧ ∃ target : FileOwner, target.Known setup original ∧
    ownership.targetUid = some target.uid ∧ ownership.targetGid = some target.gid

variable {setup : StationSetup} {original : FileEntry}

theorem found_modify {files : Files.Store Text FileEntry} {path : Text} {entry : FileEntry}
    (found : files path = some entry) (change : FileEntry → FileEntry) :
    Files.modify files path change path = some (change entry) := by
  rw [Files.modify_self, found, Option.map_some]

/-- A change of the shared file to a known owner, or to the mode `0664`. -/
theorem Accessible.modify {files : Files.Store Text FileEntry}
    (accessible : Accessible setup original files) {change : FileEntry → FileEntry}
    (owner : ∀ entry : FileEntry, entry.owner.Known setup original →
      (change entry).owner.Known setup original)
    (mode : ∀ entry, (change entry).mode = entry.mode ∨ (change entry).mode = gooseFileMode) :
    Accessible setup original (Files.modify files gooseSharedFile change) := by
  obtain ⟨entry, found, known, bits⟩ := accessible
  refine ⟨_, found_modify found change, owner entry known, ?_⟩
  rcases mode entry with same | opened
  · rw [same]
    exact bits
  · exact .inr opened

theorem Accessible.other {files next : Files.Store Text FileEntry}
    (accessible : Accessible setup original files)
    (same : next gooseSharedFile = files gooseSharedFile) : Accessible setup original next := by
  rw [Accessible, same]
  exact accessible

theorem known_chown {entry : FileEntry} (known : entry.owner.Known setup original)
    {uid gid : BitVec 32} (knownUid : setup.KnownUid original uid)
    (knownGid : setup.KnownGid original gid) :
    (entry.chown uid gid).owner.Known setup original := by
  rw [FileEntry.chown]
  refine ⟨?_, ?_⟩
  · show setup.KnownUid original (if uid = -1 then entry.owner.uid else uid)
    split
    · exact known.uid
    · exact knownUid
  · show setup.KnownGid original (if gid = -1 then entry.owner.gid else gid)
    split
    · exact known.gid
    · exact knownGid

theorem known_giveToCaller {entry : FileEntry} (known : entry.owner.Known setup original) :
    (setup.giveToCaller entry).owner.Known setup original :=
  known_chown known (.inr (.inl rfl)) (.inr (.inl rfl))

/-! ### A call of writeSharedDataset -/

namespace FileOwnership

variable {ownership : FileOwnership}

theorem Targets.haveTarget (targets : ownership.Targets setup original) :
    ownership.haveTarget = true := by
  obtain ⟨-, target, -, uid, -⟩ := targets
  rw [FileOwnership.haveTarget, uid]
  rfl

theorem Targets.give (targets : ownership.Targets setup original)
    (proper : setup.Proper original) (entry : FileEntry) :
    (ownership.give entry).owner.Known setup original := by
  obtain ⟨-, target, known, uid, gid⟩ := targets
  have properUid : target.uid ≠ -1 := fun ignored => proper.uid (ignored ▸ known.uid)
  have properGid : target.gid ≠ -1 := fun ignored => proper.gid (ignored ▸ known.gid)
  rw [FileOwnership.give, uid, gid, Option.getD_some, Option.getD_some, FileEntry.chown,
    if_neg properUid, if_neg properGid]
  exact known

theorem Targets.initFileOwnership (targets : ownership.Targets setup original)
    (environment : OwnerEnvironment) (existing : Option FileOwner) :
    ownership.initFileOwnership environment existing = ownership := by
  rw [FileOwnership.initFileOwnership, if_pos targets.1]

/-- The variables and the owner that is found give both targets. -/
theorem targets_initFileOwnership {owner : FileOwner} (known : owner.Known setup original) :
    (FileOwnership.start.initFileOwnership setup.environment (some owner)).Targets setup
      original := by
  rw [initFileOwnership_start]
  refine ⟨rfl, ⟨(ownerId setup.environment.uid).getD owner.uid,
    (ownerId setup.environment.gid).getD owner.gid⟩, ⟨?_, ?_⟩, Option.or_some, Option.or_some⟩
  · cases given : ownerId setup.environment.uid with
    | none => exact known.uid
    | some uid => exact .inr (.inr given)
  · cases given : ownerId setup.environment.gid with
    | none => exact known.gid
    | some gid => exact .inr (.inr given)

end FileOwnership

namespace WriteRequest

/-- What the calls before have made of the temporary file. With both targets there, `stat` is
never called. -/
def Prepares (request : WriteRequest) (setup : StationSetup) (original : FileEntry)
    (files : Files.Store Text FileEntry) : Stage → Prop
  | .stat => False
  | .fchmod => ∃ entry, files request.temporaryFile = some entry
  | .fchown => ∃ entry, files request.temporaryFile = some entry ∧ entry.mode = gooseFileMode
  | .write _ | .fsync | .close | .rename => ∃ entry, files request.temporaryFile = some entry ∧
      entry.owner.Known setup original ∧ entry.mode = gooseFileMode
  | _ => True

structure Gives (request : WriteRequest) (setup : StationSetup) (original : FileEntry)
    (state : WriteState) : Prop where
  targets : state.ownership.Targets setup original
  accessible : Accessible setup original state.files
  prepares : request.Prepares setup original state.files state.stage

/-- The calls that have to succeed for the file to be given away. -/
def Grants (stage : Stage) (result : SystemResult) : Prop :=
  stage = .fchmod ∨ stage = .fchown → result.succeeded = true

variable {request : WriteRequest}

/-- A change of the temporary file is none of the shared one. -/
theorem accessible_modify {files : Files.Store Text FileEntry}
    (accessible : Accessible setup original files) (change : FileEntry → FileEntry) :
    Accessible setup original (Files.modify files request.temporaryFile change) :=
  accessible.other (Files.modify_other files request.temporaryFile_ne.symm change)

theorem prepares_afterWrite {files : Files.Store Text FileEntry} {entry : FileEntry}
    (found : files request.temporaryFile = some entry)
    (known : entry.owner.Known setup original) (mode : entry.mode = gooseFileMode) (total : ℕ) :
    request.Prepares setup original files (request.afterWrite total) := by
  unfold afterWrite
  split
  · exact ⟨entry, found, known, mode⟩
  · exact ⟨entry, found, known, mode⟩

theorem Gives.step {state : WriteState} (gives : request.Gives setup original state)
    (proper : setup.Proper original) {result : SystemResult}
    (grants : Grants state.stage result) :
    request.Gives setup original (request.step state result).1 := by
  obtain ⟨stage, files, ownership⟩ := state
  obtain ⟨targets, accessible, prepares⟩ := gives
  dsimp only at targets accessible prepares grants
  cases stage with
  | snprintf =>
    obtain ⟨target, -, uid, gid⟩ := targets.2
    dsimp only [WriteRequest.step]
    split
    · rw [uid, gid]
      exact ⟨targets, accessible, trivial⟩
    · exact ⟨targets, accessible, trivial⟩
  | stat => exact prepares.elim
  | mkstemp =>
    dsimp only [WriteRequest.step]
    split
    · have other := Files.create_other files request.temporaryFile_ne.symm
        ⟨[], request.process, 0o600⟩
      exact ⟨targets, accessible.other other, _, Files.create_self files _ _⟩
    · exact ⟨targets, accessible, trivial⟩
  | fchmod =>
    obtain ⟨entry, found⟩ := prepares
    dsimp only [WriteRequest.step]
    rw [targets.haveTarget, grants (.inl rfl), if_pos rfl, if_pos rfl]
    exact ⟨targets, accessible_modify accessible _, _, found_modify found _, rfl⟩
  | fchown =>
    obtain ⟨entry, found, mode⟩ := prepares
    dsimp only [WriteRequest.step]
    rw [grants (.inr rfl), if_pos rfl]
    exact ⟨targets, accessible_modify accessible _,
      prepares_afterWrite (found_modify found _) (targets.give proper entry) mode 0⟩
  | write total =>
    obtain ⟨entry, found, known, mode⟩ := prepares
    cases result with
    | interrupted => exact ⟨targets, accessible, entry, found, known, mode⟩
    | failure => exact ⟨targets, accessible, trivial⟩
    | success more =>
      exact ⟨targets, accessible_modify accessible _,
        prepares_afterWrite (found_modify found _) known mode _⟩
  | abandon => exact ⟨targets, accessible, trivial⟩
  | unlink =>
    dsimp only [WriteRequest.step]
    split
    · exact ⟨targets, accessible.other (Files.remove_other files request.temporaryFile_ne.symm),
        trivial⟩
    · exact ⟨targets, accessible, trivial⟩
  | fsync => exact ⟨targets, accessible, prepares⟩
  | close => exact ⟨targets, accessible, prepares⟩
  | rename =>
    obtain ⟨entry, found, known, mode⟩ := prepares
    have renamed := Files.rename_target files request.temporaryFile_ne.symm
    dsimp only [WriteRequest.step]
    rw [targets.haveTarget]
    split
    · exact ⟨targets, ⟨entry, renamed.trans found, known, .inr mode⟩, trivial⟩
    · exact ⟨targets, accessible, trivial⟩
  | chown =>
    dsimp only [WriteRequest.step]
    split
    · exact ⟨targets, accessible.modify (fun entry _ => targets.give proper entry)
        fun entry => .inl rfl, trivial⟩
    · exact ⟨targets, accessible, trivial⟩
  | chmod =>
    dsimp only [WriteRequest.step]
    split
    · exact ⟨targets, accessible.modify (fun entry known => known) fun entry => .inr rfl, trivial⟩
    · exact ⟨targets, accessible, trivial⟩
  | returned renamed => exact ⟨targets, accessible, trivial⟩

theorem Prepares.other {files next : Files.Store Text FileEntry} {stage : Stage}
    (prepares : request.Prepares setup original files stage)
    (same : next request.temporaryFile = files request.temporaryFile) :
    request.Prepares setup original next stage := by
  have equal : request.Prepares setup original next stage =
      request.Prepares setup original files stage := by
    cases stage <;> simp only [Prepares, same]
  rw [equal]
  exact prepares

end WriteRequest

/-! ### Every run of the station -/

namespace BreakerStation

/-- A program that has not had a message has no target yet; one that has knows both, and gives the
file it writes to them. -/
def Giving (setup : StationSetup) (original : FileEntry) (files : Files.Store Text FileEntry)
    (listener : Listener) : Prop :=
  (listener.ownership = .start ∧ listener.writing = none) ∨
    listener.ownership.Targets setup original ∧
      ∀ request stage, listener.writing = some (request, stage) →
        request.Prepares setup original files stage

structure Keeps (setup : StationSetup) (original : FileEntry) (station : BreakerStation) :
    Prop where
  accessible : Accessible setup original station.files
  giving : ∀ listener, station.listener = some listener →
    Giving setup original station.files listener

/-- The file is found when the owner is looked up, and the calls that give the temporary file away
succeed. -/
def Granted (self : BreakerStation) : Event → Prop
  | .frame _ statSucceeds _ => ∀ listener, self.listener = some listener →
      listener.ownership.ownershipInitialized = false → statSucceeds = true
  | .call result => ∀ request stage, self.writing = some (request, stage) →
      WriteRequest.Grants stage result
  | _ => True

variable {self : BreakerStation}

theorem Keeps.frame (keeps : self.Keeps setup original) {reception : Reception}
    {statSucceeds : Bool} {suffix : Text}
    (granted : self.Granted (.frame reception statSucceeds suffix)) :
    (self.step setup (.frame reception statSucceeds suffix)).1.Keeps setup original := by
  cases listening : self.listener with
  | none =>
    rw [step]
    simp only [listening]
    exact keeps
  | some listener =>
    have giving := keeps.giving listener listening
    have targets : (listener.ownership.initFileOwnership setup.environment
        (if statSucceeds then (self.files gooseSharedFile).map FileEntry.owner
          else none)).Targets setup original := by
      rcases giving with ⟨first, -⟩ | ⟨targets, -⟩
      · obtain ⟨entry, found, known, -⟩ := keeps.accessible
        rw [granted listener listening (by rw [first]; rfl), if_pos rfl, first, found,
          Option.map_some]
        exact FileOwnership.targets_initFileOwnership known
      · rw [targets.initFileOwnership]
        exact targets
    rw [step]
    simp only [listening]
    generalize received : listener.receive setup self.files reception _ suffix = after
    refine ⟨keeps.accessible, ?_⟩
    rcases listener.receive_cases setup self.files reception _ suffix received with
      ⟨-, rfl⟩ | ⟨idle, ⟨-, rfl⟩ | ⟨next, -, rfl⟩ | ⟨next, call, -, rfl⟩⟩
    · rintro _ ⟨⟩
      exact giving
    · rintro _ ⟨⟩
    · rintro _ ⟨⟩
      exact giving
    · rintro _ ⟨⟩
      refine .inr ⟨targets, ?_⟩
      intro request stage begun
      cases dataset : call.dataset with
      | none =>
        rw [dataset] at begun
        cases begun
      | some values =>
        rw [dataset] at begun
        cases begun
        exact trivial

theorem Keeps.call (keeps : self.Keeps setup original) (proper : setup.Proper original)
    {result : SystemResult} (granted : self.Granted (.call result)) :
    (self.step setup (.call result)).1.Keeps setup original := by
  rw [step]
  cases listening : self.listener with
  | none => exact keeps
  | some listener =>
    cases writing : listener.writing with
    | none =>
      simp only [writing]
      exact keeps
    | some pair =>
      obtain ⟨request, stage⟩ := pair
      have giving := keeps.giving listener listening
      rcases giving with ⟨-, idle⟩ | ⟨targets, prepares⟩
      · rw [idle] at writing
        cases writing
      · have before : self.writing = some (request, stage) := by
          rw [BreakerStation.writing, listening, Option.bind_some, writing]
        have gives : request.Gives setup original ⟨stage, self.files, listener.ownership⟩ :=
          ⟨targets, keeps.accessible, prepares request stage writing⟩
        have next := @WriteRequest.Gives.step setup original request _ gives proper result
          (granted request stage before)
        simp only [writing]
        refine ⟨next.accessible, ?_⟩
        rintro _ ⟨⟩
        refine .inr ⟨next.targets, ?_⟩
        intro other later same
        rcases writing_resume listener request
          (request.step ⟨stage, self.files, listener.ownership⟩ result).1 with
          ⟨renamed, -, done⟩ | still
        · rw [done] at same
          cases same
        · rw [still] at same
          cases same
          exact next.prepares

theorem Keeps.guard (keeps : self.Keeps setup original) (succeeds : Bool)
    {change : FileEntry → FileEntry}
    (owner : ∀ entry : FileEntry, entry.owner.Known setup original →
      (change entry).owner.Known setup original)
    (mode : ∀ entry, (change entry).mode = entry.mode ∨ (change entry).mode = gooseFileMode) :
    (self.guard succeeds change).Keeps setup original := by
  rw [BreakerStation.guard]
  split
  · refine ⟨keeps.accessible.modify owner mode, ?_⟩
    intro listener listening
    rcases keeps.giving listener listening with first | ⟨targets, prepares⟩
    · exact .inl first
    · refine .inr ⟨targets, fun request stage writing => ?_⟩
      exact (prepares request stage writing).other
        (Files.modify_other self.files request.temporaryFile_ne change)
  · exact keeps

theorem Keeps.step (keeps : self.Keeps setup original) (proper : setup.Proper original)
    {event : Event} (granted : self.Granted event) :
    (self.step setup event).1.Keeps setup original := by
  cases event with
  | frame reception statSucceeds suffix => exact keeps.frame granted
  | call result => exact keeps.call proper granted
  | guardChown succeeds =>
    exact keeps.guard succeeds (fun _ known => known_giveToCaller known) fun _ => .inl rfl
  | guardChmod succeeds => exact keeps.guard succeeds (fun _ known => known) fun _ => .inr rfl
  | poll => exact ⟨keeps.accessible, keeps.giving⟩
  | drain => exact ⟨keeps.accessible, keeps.giving⟩

end BreakerStation

/-- The permission of everyone to read. -/
def ReadableByAll (mode : ℕ) : Prop :=
  mode.testBit 8 = true ∧ mode.testBit 5 = true ∧ mode.testBit 2 = true

theorem FileEntry.readableBy_of_mode {entry : FileEntry} (readable : ReadableByAll entry.mode)
    (reader : FileOwner) : entry.readableBy reader = true := by
  obtain ⟨owner, group, other⟩ := readable
  rw [FileEntry.readableBy, owner, group, other, ite_self, ite_self, Bool.or_true]

theorem readableByAll_gooseFileMode : ReadableByAll gooseFileMode := ⟨rfl, rfl, rfl⟩

namespace BreakerStation

/-- In every run from any files with the shared file among them, where no known id is the one that
`chown` ignores, of any frames, with the guard and any results of the system calls except that the
owner of the file is found at the first message and no `fchmod` or `fchown` fails: at every instant
the shared file is there, belongs to an owner and a group that were known before, and has its
original mode or the mode `0664`; and if everyone could read the original file, the GUI reads the
file in every poll. -/
theorem access_is_kept (setup : StationSetup) (buffer : List UInt8)
    (files : Files.Store Text FileEntry) (breaker : BreakerIed) (original : FileEntry)
    (found : files gooseSharedFile = some original) (proper : setup.Proper original)
    (events : List Event)
    (granted : ∀ index event, events[index]? = some event →
      (Machine.final (step setup) (start buffer files breaker) (events.take index)).Granted
        event) :
    let station := Machine.final (step setup) (start buffer files breaker) events
    Accessible setup original station.files ∧
      (ReadableByAll original.mode → ∃ text, setup.poll station.files = .content text) := by
  intro station
  have initially : (start buffer files breaker).Keeps setup original := by
    refine ⟨⟨original, found, ⟨.inl rfl, .inl rfl⟩, .inl rfl⟩, ?_⟩
    rintro _ ⟨⟩
    exact .inl ⟨rfl, rfl⟩
  have keeps : station.Keeps setup original :=
    Machine.final_invariant_of_condition (step setup) (Keeps setup original)
      (fun _ _ keeps granted => keeps.step proper granted) initially granted
  refine ⟨keeps.accessible, fun readable => ?_⟩
  obtain ⟨entry, shared, -, mode⟩ := keeps.accessible
  have allowed : entry.readableBy setup.reader = true := by
    rcases mode with same | opened
    · exact FileEntry.readableBy_of_mode (same ▸ readable) setup.reader
    · exact FileEntry.readableBy_of_mode (opened ▸ readableByAll_gooseFileMode) setup.reader
  refine ⟨entry.content, ?_⟩
  rw [StationSetup.poll, shared]
  exact if_pos allowed

/-- The start script has given the file to the user of the GUI, and the program of `root` writes a
message in pieces of four octets. -/
theorem access_is_kept_by_first_message :
    let setup : StationSetup := ⟨⟨none, none⟩, ⟨0, 0⟩, ⟨1000, 1000⟩, ⟨1000, 1000⟩⟩
    let original : FileEntry := ⟨BreakerSystem.initialLine, ⟨1000, 1000⟩, 0o664⟩
    let files : Files.Store Text FileEntry := Files.create (fun _ => none) gooseSharedFile original
    let message : Message := ⟨1, 0, 1000, BreakerSystem.command true false⟩
    let packet := message.frame ⟨[2, 0, 0, 0, 0, 1], rfl⟩
    let calls : List Event := List.replicate 20 (.call (.success 3))
    let station := Machine.final (step setup) (start [] files BreakerIed.start)
      (.frame ⟨packet, 2000, 2000, false, false⟩ true "abcdef".toList :: calls)
    Accessible setup original station.files ∧
      ∃ text, setup.poll station.files = .content text := by
  intro setup original files message packet calls station
  have granted : ∀ (index : Nat) (event : Event),
      (Event.frame ⟨packet, 2000, 2000, false, false⟩ true "abcdef".toList :: calls)[index]? =
        some event → ∀ station : BreakerStation, station.Granted event := by
    intro index event found station
    rcases List.mem_cons.mp (List.mem_of_getElem? found) with rfl | call
    · exact fun _ _ _ => rfl
    · rw [List.eq_of_mem_replicate call]
      exact fun _ _ _ _ => rfl
  have proper : setup.Proper original := by
    refine ⟨?_, ?_⟩
    · rintro (same | same | same)
      · exact absurd same (by decide)
      · exact absurd same (by decide)
      · cases same
    · rintro (same | same | same)
      · exact absurd same (by decide)
      · exact absurd same (by decide)
      · cases same
  have kept := access_is_kept setup [] files BreakerIed.start original
    (Files.create_self (fun _ => none) gooseSharedFile original) proper
    (.frame ⟨packet, 2000, 2000, false, false⟩ true "abcdef".toList :: calls)
    (fun index event found => granted index event found _)
  exact ⟨kept.1, kept.2 readableByAll_gooseFileMode⟩

end BreakerStation

/-! ### What the guard is for -/

/-- The shared file, where there is one, is open to everyone. -/
def OpenedUp (files : Files.Store Text FileEntry) : Prop :=
  ∀ entry, files gooseSharedFile = some entry → entry.mode = gooseFileMode

theorem OpenedUp.other {files next : Files.Store Text FileEntry} (opened : OpenedUp files)
    (same : next gooseSharedFile = files gooseSharedFile) : OpenedUp next := by
  intro entry found
  exact opened entry (same.symm.trans found)

theorem OpenedUp.modify {files : Files.Store Text FileEntry} (opened : OpenedUp files)
    {change : FileEntry → FileEntry}
    (mode : ∀ entry, entry.mode = gooseFileMode → (change entry).mode = gooseFileMode) :
    OpenedUp (Files.modify files gooseSharedFile change) := by
  intro entry found
  rw [Files.modify_self] at found
  obtain ⟨before, there, rfl⟩ := Option.map_eq_some_iff.mp found
  exact mode before (opened before there)

theorem openedUp_openUp (files : Files.Store Text FileEntry) :
    OpenedUp (Files.modify files gooseSharedFile FileEntry.openUp) := by
  intro entry found
  rw [Files.modify_self] at found
  obtain ⟨before, -, rfl⟩ := Option.map_eq_some_iff.mp found
  rfl

/-- Only a rename puts another file in the place of the shared one. -/
theorem WriteRequest.openedUp_step (request : WriteRequest) {state : WriteState}
    (opened : OpenedUp state.files) {result : SystemResult}
    (stays : ¬ (state.stage = .rename ∧ result.succeeded = true)) :
    OpenedUp (request.step state result).1.files := by
  obtain ⟨stage, files, ownership⟩ := state
  have apart := request.temporaryFile_ne.symm
  have changed (change : FileEntry → FileEntry) :
      OpenedUp (Files.modify files request.temporaryFile change) :=
    opened.other (Files.modify_other files apart change)
  cases stage with
  | snprintf =>
    dsimp only [step]
    split
    · exact opened
    · exact opened
  | mkstemp =>
    dsimp only [step]
    split
    · exact opened.other (Files.create_other files apart ⟨[], request.process, 0o600⟩)
    · exact opened
  | fchmod =>
    dsimp only [step]
    split
    · exact changed _
    · exact opened
  | fchown =>
    dsimp only [step]
    split
    · exact changed _
    · exact opened
  | write total =>
    cases result with
    | interrupted => exact opened
    | failure => exact opened
    | success more => exact changed _
  | unlink =>
    dsimp only [step]
    split
    · exact opened.other (Files.remove_other files apart)
    · exact opened
  | rename =>
    dsimp only [step]
    split
    · next succeeded => exact absurd ⟨rfl, succeeded⟩ stays
    · exact opened
  | chown =>
    dsimp only [step]
    split
    · exact opened.modify fun entry mode => mode
    · exact opened
  | chmod =>
    dsimp only [step]
    split
    · exact opened.modify fun entry mode => rfl
    · exact opened
  | _ => exact opened

namespace BreakerStation

/-- A step of the station is no rename that succeeds. -/
def Stays (setup : StationSetup) (self : BreakerStation) (event : Event) : Prop :=
  ∀ dataset, (self.step setup event).2 ≠ some (.message dataset)

theorem openedUp_step {self : BreakerStation} (opened : OpenedUp self.files) {event : Event}
    (stays : self.Stays setup event) : OpenedUp (self.step setup event).1.files := by
  cases event with
  | frame reception statSucceeds suffix =>
    rw [step]
    cases self.listener with
    | none => exact opened
    | some listener => exact opened
  | call result =>
    rw [Stays, step] at stays
    rw [step]
    cases listening : self.listener with
    | none => exact opened
    | some listener =>
      cases writing : listener.writing with
      | none =>
        simp only [writing]
        exact opened
      | some pair =>
        obtain ⟨request, stage⟩ := pair
        simp only [listening, writing] at stays ⊢
        refine request.openedUp_step opened fun renames => ?_
        exact stays request.dataset (if_pos renames)
  | guardChown succeeds =>
    rw [step, guard]
    split
    · exact opened.modify fun entry mode => mode
    · exact opened
  | guardChmod succeeds =>
    rw [step, guard]
    split
    · exact openedUp_openUp self.files
    · exact opened
  | poll => exact opened
  | drain => exact opened

/-- Only such a rename changes what the shared file holds. -/
theorem readShared_step {self : BreakerStation} {base : Files.Store Text FileEntry}
    (tidy : self.Tidy (fun _ => True) base) {event : Event} (stays : self.Stays setup event) :
    readShared (self.step setup event).1.files = readShared self.files := by
  have refines : self.Refines (fun _ => True) base ⟨readShared self.files, self.breaker⟩ :=
    ⟨tidy, rfl, rfl, rfl, rfl⟩
  have file := (@Refines.step setup _ base self _ refines event fun _ _ => trivial).file
  cases output : (self.step setup event).2 with
  | none =>
    rw [output] at file
    exact file
  | some action =>
    rw [output] at file
    cases action with
    | message dataset => exact absurd output (stays dataset)
    | poll => exact file
    | drain => exact file

/-- Everyone can read the shared file, and it holds a text, or is not there. -/
structure Opened (base : Files.Store Text FileEntry) (content : Option Text)
    (station : BreakerStation) : Prop where
  tidy : station.Tidy (fun _ => True) base
  mode : OpenedUp station.files
  content : readShared station.files = content

theorem Opened.step {self : BreakerStation} {base : Files.Store Text FileEntry}
    {content : Option Text} (opened : self.Opened base content) {event : Event}
    (stays : self.Stays setup event) : (self.step setup event).1.Opened base content where
  tidy := opened.tidy.step fun _ _ => trivial
  mode := openedUp_step opened.mode stays
  content := (readShared_step opened.tidy stays).trans opened.content

theorem Opened.poll {self : BreakerStation} {base : Files.Store Text FileEntry}
    {content : Option Text} (opened : self.Opened base content) (setup : StationSetup) :
    setup.poll self.files = .ofFile content := by
  have holds := opened.content
  rw [readShared] at holds
  rw [StationSetup.poll]
  cases found : self.files gooseSharedFile with
  | none =>
    rw [found, Option.map_none] at holds
    rw [← holds]
    rfl
  | some entry =>
    have allowed := FileEntry.readableBy_of_mode
      ((opened.mode entry found).symm ▸ readableByAll_gooseFileMode) setup.reader
    rw [found, Option.map_some] at holds
    rw [← holds]
    exact if_pos allowed

/-- Whatever has happened before, and whatever calls have failed: after a `chmod` of the guard that
succeeds, and until the next rename that succeeds, a poll reads what the shared file held at the
`chmod`. -/
theorem guard_restores_access (setup : StationSetup) (buffer : List UInt8)
    (files : Files.Store Text FileEntry) (breaker : BreakerIed) (before after : List Event)
    (unreplaced : ∀ dataset, some (.message dataset) ∉
      Machine.outputs (step setup) (Machine.final (step setup) (start buffer files breaker)
        (before ++ [.guardChmod true])) after) :
    setup.poll (Machine.final (step setup) (start buffer files breaker)
        (before ++ .guardChmod true :: after)).files =
      .ofFile (readShared
        (Machine.final (step setup) (start buffer files breaker) before).files) := by
  have tidy := (tidy_start _ buffer files breaker).final setup before
  refine @Opened.poll _ files _ ?_ setup
  rw [List.append_cons, Machine.final_append]
  refine Machine.final_invariant_of_condition (step setup) (Opened files _)
    (fun _ _ opened stays => opened.step stays) ?_ ?_
  · rw [Machine.final_append]
    obtain ⟨still, same⟩ := tidy.guard true FileEntry.openUp fun entry => rfl
    exact ⟨still, openedUp_openUp _, same⟩
  · intro index event found dataset renamed
    refine unreplaced dataset (List.mem_iff_getElem?.mpr ⟨index, ?_⟩)
    rw [Machine.getElem?_outputs, found, Option.map_some, renamed]

/-- A file that only `root` may read, as a failed `fchmod` leaves it, is denied to the GUI before
the guard has opened it up. -/
theorem guard_restores_access_to_closed_file :
    let setup : StationSetup := ⟨⟨none, none⟩, ⟨0, 0⟩, ⟨1000, 1000⟩, ⟨1000, 1000⟩⟩
    let files : Files.Store Text FileEntry := Files.create (fun _ => none) gooseSharedFile
      ⟨BreakerSystem.initialLine, ⟨0, 0⟩, 0o600⟩
    setup.poll files = .permissionDenied ∧
      setup.poll (Machine.final (step setup) (start [] files BreakerIed.start)
        ([.poll] ++ .guardChmod true :: [.drain, .guardChown false])).files =
          .content BreakerSystem.initialLine := by
  intro setup files
  have there : files gooseSharedFile = some ⟨BreakerSystem.initialLine, ⟨0, 0⟩, 0o600⟩ :=
    Files.create_self _ _ _
  have held : readShared files = some BreakerSystem.initialLine :=
    congrArg (Option.map FileEntry.content) there
  refine ⟨?_, (guard_restores_access setup [] files BreakerIed.start [.poll]
    [.drain, .guardChown false] ?_).trans (congrArg PollOutcome.ofFile held)⟩
  · rw [StationSetup.poll, there]
    rfl
  · intro dataset replaced
    rcases List.mem_cons.mp replaced with drained | later
    · cases drained
    · cases List.mem_singleton.mp later

end BreakerStation

end Substation
