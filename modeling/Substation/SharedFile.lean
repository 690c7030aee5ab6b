/-
This file embeds `writeSharedDataset` of `goose_subscriber_example.c` call by call.
Every system call may fail, a write may take any part of what is left or be
interrupted, and another process may read the shared file between any two calls.

The main result is that a reader finds the previous content until a rename has
succeeded and the complete line after it, and that a call that has returned has left
no other file changed, unless it is its temporary file and could not be removed.
-/

import Substation.Lib.Files
import Substation.Ownership
import Substation.Subscriber

namespace Substation

open Decimal

/-! ### Files and system calls -/

structure FileEntry where
  content : Text
  owner : FileOwner
  mode : ℕ
  deriving DecidableEq, Repr

/-- `chown` with `(uid_t) -1` or `(gid_t) -1` leaves the id as it is. -/
def FileEntry.chown (self : FileEntry) (uid gid : BitVec 32) : FileEntry :=
  { self with owner :=
    ⟨if uid = -1 then self.owner.uid else uid, if gid = -1 then self.owner.gid else gid⟩ }

def gooseSharedFile : Text := "/tmp/goose_data.txt".toList

/-- `S_IRUSR | S_IWUSR | S_IRGRP | S_IWGRP | S_IROTH`. -/
def gooseFileMode : ℕ := 0o664

/-- What a call returns. Of a success only `write` has more to say: how many octets it takes after
the first, as far as there are so many. -/
inductive SystemResult
  | success (more : ℕ)
  /-- A failure with `EINTR`. -/
  | interrupted
  | failure
  deriving DecidableEq, Repr

def SystemResult.succeeded : SystemResult → Bool
  | .success _ => true
  | .interrupted => false
  | .failure => false

def SystemResult.completed : SystemResult → Bool
  | .success _ => true
  | .interrupted => false
  | .failure => true

/-! ### writeSharedDataset -/

/-- The call that comes next. -/
inductive Stage
  | snprintf
  | stat
  | mkstemp
  | fchmod
  | fchown
  | write (total : ℕ)
  /-- `close` after a write that failed. -/
  | abandon
  | unlink
  | fsync
  | close
  | rename
  | chown
  | chmod
  /-- The function has returned, after a rename or without one. -/
  | returned (renamed : Bool)
  deriving DecidableEq, Repr

/-- The values to write, the characters that `mkstemp` puts at the end of its template, and the
ids of the process. -/
structure WriteRequest where
  dataset : Dataset
  suffix : Text
  process : FileOwner

structure WriteState where
  stage : Stage
  files : Files.Store Text FileEntry
  ownership : FileOwnership

/-- What a reader finds in the shared file. -/
def readShared (files : Files.Store Text FileEntry) : Option Text :=
  (files gooseSharedFile).map FileEntry.content

namespace FileOwnership

def haveTarget (self : FileOwnership) : Bool := self.targetUid.isSome || self.targetGid.isSome

/-- A file given to the targets that are there. -/
def give (self : FileOwnership) (entry : FileEntry) : FileEntry :=
  entry.chown (self.targetUid.getD (-1)) (self.targetGid.getD (-1))

end FileOwnership

namespace WriteRequest

/-- The text in the buffer. -/
def line (request : WriteRequest) : Text := sharedLine request.dataset

def temporaryFile (request : WriteRequest) : Text :=
  gooseSharedFile ++ '.' :: request.suffix

def start (ownership : FileOwnership) (files : Files.Store Text FileEntry) : WriteState :=
  ⟨.snprintf, files, ownership⟩

/-- The loop goes on while octets are left. -/
def afterWrite (request : WriteRequest) (total : ℕ) : Stage :=
  if total < request.line.length then .write total else .fsync

/-- One call with its result. `mkstemp` never opens a file that exists. -/
def step (request : WriteRequest) (state : WriteState) (result : SystemResult) :
    WriteState × Unit :=
  let ok := result.succeeded
  let temporary := request.temporaryFile
  (match state.stage with
  | .snprintf =>
    if ok then
      { state with stage :=
          if state.ownership.targetUid.isSome && state.ownership.targetGid.isSome then .mkstemp
          else .stat }
    else { state with stage := .returned false }
  | .stat =>
    { state with
      stage := .mkstemp
      ownership := state.ownership.adoptExistingOwnership
        (if ok then (state.files gooseSharedFile).map FileEntry.owner else none) }
  | .mkstemp =>
    if ok && (state.files temporary).isNone then
      { state with
        stage := .fchmod
        files := Files.create state.files temporary ⟨[], request.process, 0o600⟩ }
    else { state with stage := .returned false }
  | .fchmod =>
    { state with
      stage := if state.ownership.haveTarget then .fchown else request.afterWrite 0
      files := if ok then Files.modify state.files temporary ({ · with mode := gooseFileMode })
        else state.files }
  | .fchown =>
    { state with
      stage := request.afterWrite 0
      files := if ok then Files.modify state.files temporary state.ownership.give
        else state.files }
  | .write total =>
    match result with
    | .interrupted => state
    | .failure => { state with stage := .abandon }
    | .success more =>
      let chunk := (request.line.drop total).take (more + 1)
      { state with
        stage := request.afterWrite (total + chunk.length)
        files := Files.modify state.files temporary fun entry =>
          { entry with content := entry.content ++ chunk } }
  | .abandon => { state with stage := .unlink }
  | .unlink =>
    { state with
      stage := .returned false
      files := if ok then Files.remove state.files temporary else state.files }
  | .fsync => { state with stage := .close }
  | .close => { state with stage := .rename }
  | .rename =>
    if ok then
      { state with
        stage := if state.ownership.haveTarget then .chown else .chmod
        files := Files.rename state.files temporary gooseSharedFile }
    else { state with stage := .unlink }
  | .chown =>
    { state with
      stage := .chmod
      files := if ok then Files.modify state.files gooseSharedFile state.ownership.give
        else state.files }
  | .chmod =>
    { state with
      stage := .returned true
      files := if ok then
          Files.modify state.files gooseSharedFile ({ · with mode := gooseFileMode })
        else state.files }
  | .returned _ => state, ())

/-- The state after the calls with some results. -/
def run (request : WriteRequest) (ownership : FileOwnership)
    (files : Files.Store Text FileEntry) (results : List SystemResult) : WriteState :=
  Machine.final request.step (start ownership files) results

/-! ### What the files hold at each call -/

theorem temporaryFile_ne (request : WriteRequest) : request.temporaryFile ≠ gooseSharedFile := by
  intro equal
  have lengths := congrArg List.length equal
  rw [temporaryFile, List.length_append, List.length_cons] at lengths
  omega

/-- The temporary file cannot be removed. -/
def UnlinkFails (state : WriteState) (result : SystemResult) : Prop :=
  state.stage = .unlink ∧ result.succeeded = false

variable (request : WriteRequest) (initial : Files.Store Text FileEntry)

/-- The temporary file holds a text, and nothing else has changed. -/
structure Pending (files : Files.Store Text FileEntry) (text : Text) : Prop where
  fresh : initial request.temporaryFile = none
  content : (files request.temporaryFile).map FileEntry.content = some text
  others : ∀ path, path ≠ request.temporaryFile → files path = initial path

/-- The shared file holds the line, and nothing else has changed. -/
structure Replaced (files : Files.Store Text FileEntry) : Prop where
  content : readShared files = some request.line
  others : ∀ path, path ≠ gooseSharedFile → files path = initial path

/-- The files when a call comes next. The temporary file may be `left` behind. -/
def Consistent (left : Prop) (state : WriteState) : Prop :=
  match state.stage with
  | .snprintf | .stat | .mkstemp => state.files = initial
  | .returned false =>
    state.files = initial ∨ left ∧ ∃ text, request.Pending initial state.files text
  | .fchmod | .fchown => request.Pending initial state.files []
  | .write total => request.Pending initial state.files (request.line.take total)
  | .abandon | .unlink => ∃ text, request.Pending initial state.files text
  | .fsync | .close | .rename => request.Pending initial state.files request.line
  | .chown | .chmod | .returned true => request.Replaced initial state.files

variable {request initial} {left : Prop}

theorem Pending.of_create (fresh : initial request.temporaryFile = none) (owner : FileOwner)
    (mode : ℕ) :
    request.Pending initial (Files.create initial request.temporaryFile ⟨[], owner, mode⟩) [] where
  fresh := fresh
  content := by rw [Files.create_self, Option.map_some]
  others path different := Files.create_other initial different _

theorem Pending.modify {files : Files.Store Text FileEntry} {text after : Text}
    (pending : request.Pending initial files text) {change : FileEntry → FileEntry}
    (changed : ∀ entry, entry.content = text → (change entry).content = after) :
    request.Pending initial (Files.modify files request.temporaryFile change) after where
  fresh := pending.fresh
  content := by
    obtain ⟨entry, found, content⟩ := Option.map_eq_some_iff.mp pending.content
    rw [Files.modify_self, found, Option.map_some, Option.map_some, changed entry content]
  others path different :=
    (Files.modify_other files different change).trans (pending.others path different)

/-- Nothing is left of the call when its temporary file is removed. -/
theorem Pending.remove {files : Files.Store Text FileEntry} {text : Text}
    (pending : request.Pending initial files text) :
    Files.remove files request.temporaryFile = initial := by
  funext path
  by_cases same : path = request.temporaryFile
  · rw [same, Files.remove_self, pending.fresh]
  · rw [Files.remove_other files same, pending.others path same]

theorem Pending.rename {files : Files.Store Text FileEntry}
    (pending : request.Pending initial files request.line) :
    request.Replaced initial (Files.rename files request.temporaryFile gooseSharedFile) where
  content := by
    rw [readShared, Files.rename_target files request.temporaryFile_ne.symm]
    exact pending.content
  others path notShared := by
    by_cases same : path = request.temporaryFile
    · rw [same, Files.rename_source, pending.fresh]
    · rw [Files.rename_other files same notShared, pending.others path same]

theorem Replaced.modify {files : Files.Store Text FileEntry}
    (replaced : request.Replaced initial files) {change : FileEntry → FileEntry}
    (kept : ∀ entry, (change entry).content = entry.content) :
    request.Replaced initial (Files.modify files gooseSharedFile change) where
  content := by
    obtain ⟨entry, found, content⟩ := Option.map_eq_some_iff.mp replaced.content
    rw [readShared, Files.modify_self, found, Option.map_some, Option.map_some, kept, content]
  others path different :=
    (Files.modify_other files different change).trans (replaced.others path different)

/-- A call that may fail, and that leaves the content alone. -/
theorem Pending.attempt {files : Files.Store Text FileEntry} {text : Text}
    (pending : request.Pending initial files text) (ok : Bool) {change : FileEntry → FileEntry}
    (kept : ∀ entry, (change entry).content = entry.content) :
    request.Pending initial
      (if ok then Files.modify files request.temporaryFile change else files) text := by
  split
  · exact pending.modify fun entry content => (kept entry).trans content
  · exact pending

theorem Replaced.attempt {files : Files.Store Text FileEntry}
    (replaced : request.Replaced initial files) (ok : Bool) {change : FileEntry → FileEntry}
    (kept : ∀ entry, (change entry).content = entry.content) :
    request.Replaced initial
      (if ok then Files.modify files gooseSharedFile change else files) := by
  split
  · exact replaced.modify kept
  · exact replaced

theorem consistent_start (ownership : FileOwnership) :
    request.Consistent initial left (start ownership initial) :=
  rfl

theorem consistent_afterWrite {files : Files.Store Text FileEntry} (ownership : FileOwnership)
    {total : ℕ} (pending : request.Pending initial files (request.line.take total)) :
    request.Consistent initial left ⟨request.afterWrite total, files, ownership⟩ := by
  unfold afterWrite
  split
  case isTrue unwritten => exact pending
  case isFalse written =>
    rw [List.take_of_length_le (Nat.le_of_not_lt written)] at pending
    exact pending

theorem take_append_chunk (line : Text) (total more : ℕ) :
    line.take total ++ (line.drop total).take more =
      line.take (total + ((line.drop total).take more).length) := by
  rw [List.take_add, List.length_take, ← List.take_eq_take_min]

/-- Every call keeps the files consistent, whatever it returns. -/
theorem consistent_step (state : WriteState) (result : SystemResult)
    (fails : UnlinkFails state result → left)
    (consistent : request.Consistent initial left state) :
    request.Consistent initial left (request.step state result).1 := by
  obtain ⟨stage, files, ownership⟩ := state
  cases stage with
  | snprintf =>
    have unchanged : files = initial := consistent
    dsimp only [step]
    split
    · split
      · exact unchanged
      · exact unchanged
    · exact .inl unchanged
  | stat =>
    have unchanged : files = initial := consistent
    exact unchanged
  | mkstemp =>
    have unchanged : files = initial := consistent
    subst unchanged
    dsimp only [step]
    split
    case isTrue opened =>
      have fresh := Option.isNone_iff_eq_none.mp (Bool.and_eq_true_iff.mp opened).2
      exact Pending.of_create fresh request.process 0o600
    case isFalse => exact .inl rfl
  | fchmod =>
    have pending : request.Pending initial files [] := consistent
    dsimp only [step]
    split
    · exact pending.attempt result.succeeded fun entry => rfl
    · exact consistent_afterWrite ownership (pending.attempt result.succeeded fun entry => rfl)
  | fchown =>
    have pending : request.Pending initial files [] := consistent
    exact consistent_afterWrite ownership (pending.attempt result.succeeded fun entry => rfl)
  | write total =>
    have pending : request.Pending initial files (request.line.take total) := consistent
    cases result with
    | interrupted => exact pending
    | failure => exact ⟨_, pending⟩
    | success more =>
      refine consistent_afterWrite ownership (pending.modify fun entry content => ?_)
      rw [content]
      exact take_append_chunk request.line total (more + 1)
  | abandon => exact consistent
  | unlink =>
    obtain ⟨text, pending⟩ : ∃ text, request.Pending initial files text := consistent
    dsimp only [step]
    split
    case isTrue => exact .inl pending.remove
    case isFalse failed =>
      exact .inr ⟨fails ⟨rfl, Bool.eq_false_of_not_eq_true failed⟩, text, pending⟩
  | fsync => exact consistent
  | close => exact consistent
  | rename =>
    have pending : request.Pending initial files request.line := consistent
    dsimp only [step]
    split
    · split
      · exact pending.rename
      · exact pending.rename
    · exact ⟨_, pending⟩
  | chown =>
    have replaced : request.Replaced initial files := consistent
    exact replaced.attempt result.succeeded fun entry => rfl
  | chmod =>
    have replaced : request.Replaced initial files := consistent
    exact replaced.attempt result.succeeded fun entry => rfl
  | returned renamed => exact consistent

/-- Some call of the function is an `unlink` that fails. -/
def UnlinkFailed (request : WriteRequest) (ownership : FileOwnership)
    (files : Files.Store Text FileEntry) (results : List SystemResult) : Prop :=
  Machine.Occurs request.step UnlinkFails (start ownership files) results

theorem consistent_run (request : WriteRequest) (ownership : FileOwnership)
    (initial : Files.Store Text FileEntry) (results : List SystemResult) :
    request.Consistent initial (request.UnlinkFailed ownership initial results)
      (request.run ownership initial results) := by
  refine Machine.final_invariant_of_condition request.step (request.Consistent initial _)
    (fun state result consistent fails => consistent_step state result fails consistent)
    (consistent_start ownership) ?_
  intro index result found fails
  exact ⟨index, result, found, fails⟩

/-! ### The rename decides what a reader finds -/

end WriteRequest

/-- The stages behind a rename that succeeded. -/
def Stage.afterRename : Stage → Prop
  | .chown | .chmod | .returned true => True
  | _ => False

namespace WriteRequest

/-- A rename of the temporary file succeeds. -/
def Renames (state : WriteState) (result : SystemResult) : Prop :=
  state.stage = .rename ∧ result.succeeded = true

theorem not_afterRename_afterWrite (request : WriteRequest) (total : ℕ) :
    ¬ (request.afterWrite total).afterRename := by
  unfold afterWrite
  split
  · exact not_false
  · exact not_false

theorem afterRename_step_of_afterRename (request : WriteRequest) {state : WriteState}
    (after : state.stage.afterRename) (result : SystemResult) :
    (request.step state result).1.stage.afterRename := by
  obtain ⟨stage, files, ownership⟩ := state
  cases stage with
  | chown => exact trivial
  | chmod => exact trivial
  | returned renamed => exact after
  | _ => exact after.elim

/-- No other call leads behind the rename. -/
theorem not_afterRename_step (request : WriteRequest) {state : WriteState}
    (before : ¬ state.stage.afterRename) (other : state.stage ≠ .rename)
    (result : SystemResult) : ¬ (request.step state result).1.stage.afterRename := by
  obtain ⟨stage, files, ownership⟩ := state
  cases stage with
  | snprintf =>
    dsimp only [step]
    split
    · split
      · exact not_false
      · exact not_false
    · exact not_false
  | mkstemp =>
    dsimp only [step]
    split
    · exact not_false
    · exact not_false
  | fchmod =>
    dsimp only [step]
    split
    · exact not_false
    · exact not_afterRename_afterWrite request 0
  | fchown => exact not_afterRename_afterWrite request 0
  | write total =>
    cases result with
    | interrupted => exact not_false
    | failure => exact not_false
    | success more => exact not_afterRename_afterWrite request _
  | rename => exact absurd rfl other
  | chown => exact absurd trivial before
  | chmod => exact absurd trivial before
  | returned renamed => exact before
  | _ => exact not_false

theorem afterRename_step (request : WriteRequest) (state : WriteState) (result : SystemResult) :
    (request.step state result).1.stage.afterRename ↔
      state.stage.afterRename ∨ Renames state result := by
  by_cases after : state.stage.afterRename
  · exact iff_of_true (request.afterRename_step_of_afterRename after result) (.inl after)
  · rw [or_iff_right after]
    by_cases atRename : state.stage = .rename
    · obtain ⟨stage, files, ownership⟩ := state
      cases atRename
      dsimp only [step]
      split
      case isTrue ok =>
        refine iff_of_true ?_ ⟨rfl, ok⟩
        split
        · exact trivial
        · exact trivial
      case isFalse failed => exact iff_of_false not_false fun renames => failed renames.2
    · exact iff_of_false (request.not_afterRename_step after atRename result)
        fun renames => atRename renames.1

theorem Pending.readShared_eq {request : WriteRequest}
    {initial files : Files.Store Text FileEntry} {text : Text}
    (pending : request.Pending initial files text) : readShared files = readShared initial :=
  congrArg (Option.map FileEntry.content) (pending.others _ request.temporaryFile_ne.symm)

theorem Consistent.readShared_of_afterRename {request : WriteRequest}
    {initial : Files.Store Text FileEntry} {left : Prop} {state : WriteState}
    (consistent : request.Consistent initial left state) (after : state.stage.afterRename) :
    readShared state.files = some request.line := by
  obtain ⟨stage, files, ownership⟩ := state
  have replaced : request.Replaced initial files := by
    cases stage with
    | chown => exact consistent
    | chmod => exact consistent
    | returned renamed =>
      cases renamed with
      | true => exact consistent
      | false => exact after.elim
    | _ => exact after.elim
  exact replaced.content

theorem Consistent.readShared_of_not_afterRename {request : WriteRequest}
    {initial : Files.Store Text FileEntry} {left : Prop} {state : WriteState}
    (consistent : request.Consistent initial left state) (before : ¬ state.stage.afterRename) :
    readShared state.files = readShared initial := by
  obtain ⟨stage, files, ownership⟩ := state
  have kept : files = initial ∨ ∃ text, request.Pending initial files text := by
    cases stage with
    | snprintf => exact .inl consistent
    | stat => exact .inl consistent
    | mkstemp => exact .inl consistent
    | abandon => exact .inr consistent
    | unlink => exact .inr consistent
    | chown => exact absurd trivial before
    | chmod => exact absurd trivial before
    | returned renamed =>
      cases renamed with
      | true => exact absurd trivial before
      | false => exact consistent.imp_right And.right
    | _ => exact .inr ⟨_, consistent⟩
  rcases kept with unchanged | ⟨text, pending⟩
  · exact congrArg readShared unchanged
  · exact pending.readShared_eq

/-- When the function has returned, no file but the shared one differs from before, except a
temporary file that is left behind. -/
theorem Consistent.others_of_returned {request : WriteRequest}
    {initial : Files.Store Text FileEntry} {left : Prop} {state : WriteState}
    (consistent : request.Consistent initial left state) {renamed : Bool}
    (returned : state.stage = .returned renamed) {path : Text}
    (different : path ≠ gooseSharedFile) :
    state.files path = initial path ∨
      initial path = none ∧ path = request.temporaryFile ∧ left := by
  obtain ⟨stage, files, ownership⟩ := state
  cases returned
  cases renamed with
  | false =>
    rcases consistent with unchanged | ⟨isLeft, text, pending⟩
    · exact .inl (congrFun unchanged path)
    · by_cases temporary : path = request.temporaryFile
      · exact .inr ⟨temporary ▸ pending.fresh, temporary, isLeft⟩
      · exact .inl (pending.others path temporary)
  | true =>
    have replaced : request.Replaced initial files := consistent
    exact .inl (replaced.others path different)

section Main

variable (request : WriteRequest) (ownership : FileOwnership)
  (files : Files.Store Text FileEntry) (results : List SystemResult)

/-- Some call of the function is a rename that succeeds. -/
def HasRenamed : Prop :=
  Machine.Occurs request.step Renames (start ownership files) results

theorem afterRename_run :
    (request.run ownership files results).stage.afterRename ↔
      request.HasRenamed ownership files results := by
  have flag := Machine.final_flag request.step (fun state => state.stage.afterRename)
    (afterRename_step request) (start ownership files) results
  exact flag.trans (or_iff_right not_false)

theorem readShared_of_hasRenamed (renamed : request.HasRenamed ownership files results) :
    readShared (request.run ownership files results).files = some request.line :=
  (request.consistent_run ownership files results).readShared_of_afterRename
    ((request.afterRename_run ownership files results).mpr renamed)

theorem readShared_of_not_hasRenamed (never : ¬ request.HasRenamed ownership files results) :
    readShared (request.run ownership files results).files = readShared files :=
  (request.consistent_run ownership files results).readShared_of_not_afterRename
    (mt (request.afterRename_run ownership files results).mp never)

end Main

/-- After any calls with any results, wherever the function then is, a reader finds the previous
content or the complete line, and the line exactly when a rename has succeeded. When the function
has returned, no other file has come, gone or changed: its temporary file is not left behind, except
where its `unlink` failed. -/
theorem shared_file_replaced_all_or_nothing (request : WriteRequest) (ownership : FileOwnership)
    (files : Files.Store Text FileEntry) (results : List SystemResult) :
    let state := request.run ownership files results
    (readShared state.files = readShared files ∨ readShared state.files = some request.line) ∧
      (¬ request.HasRenamed ownership files results →
        readShared state.files = readShared files) ∧
      (request.HasRenamed ownership files results →
        readShared state.files = some request.line) ∧
      ∀ renamed, state.stage = .returned renamed →
        (renamed = true ↔ request.HasRenamed ownership files results) ∧
          ∀ path, path ≠ gooseSharedFile → state.files path = files path ∨
            path = request.temporaryFile ∧ request.UnlinkFailed ownership files results := by
  intro state
  have before := request.readShared_of_not_hasRenamed ownership files results
  have after := request.readShared_of_hasRenamed ownership files results
  refine ⟨?_, before, after, ?_⟩
  · by_cases renamed : request.HasRenamed ownership files results
    · exact .inr (after renamed)
    · exact .inl (before renamed)
  · intro renamed returned
    have consistent := request.consistent_run ownership files results
    refine ⟨?_, fun path different =>
      (consistent.others_of_returned returned different).imp_right And.right⟩
    rw [← request.afterRename_run ownership files results, returned]
    cases renamed with
    | true => exact iff_of_true rfl trivial
    | false => exact iff_of_false Bool.false_ne_true not_false

/-! ### The function returns -/

/-- How many calls may still follow that are not interrupted writes. -/
def remaining (request : WriteRequest) : Stage → ℕ
  | .snprintf => request.line.length + 11
  | .stat => request.line.length + 10
  | .mkstemp => request.line.length + 9
  | .fchmod => request.line.length + 8
  | .fchown => request.line.length + 7
  | .write total => request.line.length - total + 6
  | .fsync => 5
  | .close => 4
  | .rename => 3
  | .chown => 2
  | .abandon => 2
  | .chmod => 1
  | .unlink => 1
  | .returned _ => 0

theorem remaining_afterWrite (request : WriteRequest) (total : ℕ) :
    request.remaining (request.afterWrite total) ≤ request.line.length - total + 6 := by
  unfold afterWrite
  split
  · exact le_rfl
  · rw [remaining]
    omega

/-- A write that takes something leaves less to write. -/
theorem remaining_write (request : WriteRequest) (total more : ℕ) :
    request.remaining (request.afterWrite
      (total + ((request.line.drop total).take (more + 1)).length)) <
        request.line.length - total + 6 := by
  have length : ((request.line.drop total).take (more + 1)).length =
      min (more + 1) (request.line.length - total) := by
    rw [List.length_take, List.length_drop]
  by_cases left : total < request.line.length
  · refine lt_of_le_of_lt (remaining_afterWrite request _) ?_
    omega
  · have written : ¬ total + ((request.line.drop total).take (more + 1)).length <
        request.line.length := by omega
    rw [afterWrite, if_neg written, remaining]
    omega

theorem remaining_step (request : WriteRequest) (state : WriteState) (result : SystemResult) :
    request.remaining (request.step state result).1.stage ≤
      request.remaining state.stage - (SystemResult.completed result).toNat := by
  have one : (SystemResult.completed result).toNat ≤ 1 := Bool.toNat_le _
  obtain ⟨stage, files, ownership⟩ := state
  have first := request.remaining_afterWrite 0
  cases stage with
  | snprintf =>
    dsimp only [step]
    split_ifs <;> simp only [remaining] <;> omega
  | mkstemp =>
    dsimp only [step]
    split_ifs <;> simp only [remaining] <;> omega
  | fchmod =>
    dsimp only [step]
    split
    · simp only [remaining]
      omega
    · refine first.trans ?_
      rw [remaining]
      omega
  | fchown =>
    refine first.trans ?_
    rw [remaining]
    omega
  | write total =>
    cases result with
    | interrupted => exact le_rfl
    | failure => exact Nat.le_sub_of_add_le (by simp only [step, remaining]; omega)
    | success more => exact Nat.le_sub_one_of_lt (request.remaining_write total more)
  | rename =>
    dsimp only [step]
    split_ifs <;> simp only [remaining] <;> omega
  | _ =>
    simp only [step, remaining]
    omega

/-- The function returns once enough of its calls have completed, whatever their results; only
interrupted writes are made again without a bound. -/
theorem returns (request : WriteRequest) (ownership : FileOwnership)
    (files : Files.Store Text FileEntry) {results : List SystemResult}
    (enough : request.line.length + 11 ≤ results.countP SystemResult.completed) :
    ∃ renamed, (request.run ownership files results).stage = .returned renamed := by
  have rank := Machine.final_rank request.step (fun state => request.remaining state.stage)
    SystemResult.completed (remaining_step request) (start ownership files) results
  have none_left : request.remaining (request.run ownership files results).stage = 0 := by
    refine Nat.le_zero.mp (rank.trans ?_)
    rw [start, remaining]
    omega
  generalize (request.run ownership files results).stage = stage at none_left
  cases stage with
  | returned renamed => exact ⟨renamed, rfl⟩
  | _ => exact absurd none_left (by rw [remaining]; omega)

end WriteRequest

/-! ### The write inside the program -/

/-- A step of the program that writes is the function run with a rename that succeeds; without one
the file stays as it was. -/
theorem SubscriberProgram.step_writes {self next : SubscriberProgram} {reception : Reception}
    {call : ListenerCall} (taken : self.step reception = some (next, some call))
    {request : WriteRequest} (read : call.dataset = some request.dataset)
    {files : Files.Store Text FileEntry} (shared : readShared files = self.file)
    (ownership : FileOwnership) (results : List SystemResult) :
    (request.HasRenamed ownership files results →
        readShared (request.run ownership files results).files = next.file) ∧
      (¬ request.HasRenamed ownership files results →
        readShared (request.run ownership files results).files = self.file) := by
  have written : next.file = some request.line := by
    rcases step_cases taken with ⟨-, impossible, -⟩ | ⟨fields, heard, -, output, -, -, writes⟩
    · cases impossible
    · cases output
      rcases writes with ⟨-, nothing, -⟩ | ⟨components, dataset, -, -, -, found, file⟩
      · cases nothing.symm.trans read
      · cases found.symm.trans read
        exact file
  rw [written, ← shared]
  exact ⟨request.readShared_of_hasRenamed ownership files results,
    request.readShared_of_not_hasRenamed ownership files results⟩

end Substation
