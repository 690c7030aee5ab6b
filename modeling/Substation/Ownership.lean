/-
This file embeds the hand-off of the shared file's ownership in
`goose_subscriber_example.c`: the owner comes from two environment variables, and
what they do not give is adopted from the file that is found.

The main result says exactly for which variables every run of the listener ends with
the numbers they denote, or the owner of the first file seen, and never changes them:
those that denote no number of more than 32 bits.
-/

import Substation.Lib.Decimal
import Substation.Lib.Machine

namespace Substation

open Decimal

/-! ### initFileOwnership and adoptExistingOwnership -/

/-- The owner and the group that `stat` gives for a file. -/
structure FileOwner where
  uid : BitVec 32
  gid : BitVec 32
  deriving DecidableEq, Repr

/-- The values of `GOOSE_FILE_OWNER_UID` and `GOOSE_FILE_OWNER_GID`. -/
structure OwnerEnvironment where
  uid : Option Text
  gid : Option Text

/-- `strtol` in base 10: a number held to 64 bits, and the text after it. Without a digit nothing
is read. -/
def strtol (text : Text) : ℤ × Text :=
  match scanInteger text with
  | none => (0, text)
  | some (value, rest) => (max (-2 ^ 63) (min (2 ^ 63 - 1) value), rest)

/-- The number that passes the checks of a variable. -/
def acceptOwner (text : Text) : Option ℤ :=
  let parsed := strtol text
  if parsed.2 ≠ text ∧ parsed.2 = [] ∧ 0 ≤ parsed.1 then some parsed.1 else none

/-- The conversion to `uid_t` or `gid_t` of a number accepted. -/
def ownerId (setting : Option Text) : Option (BitVec 32) :=
  (setting.bind acceptOwner).map (BitVec.ofInt 32)

/-- The static variables of the program; a target is there once its `haveTarget` is set. -/
structure FileOwnership where
  ownershipInitialized : Bool
  targetUid : Option (BitVec 32)
  targetGid : Option (BitVec 32)
  deriving DecidableEq, Repr

namespace FileOwnership

def start : FileOwnership := ⟨false, none, none⟩

/-- `adoptExistingOwnership`, with the owner of the file when `stat` finds one. -/
def adoptExistingOwnership (self : FileOwnership) (existing : Option FileOwner) : FileOwnership :=
  if self.targetUid.isSome && self.targetGid.isSome then self
  else
    match existing with
    | none => self
    | some owner =>
      { self with
        targetUid := self.targetUid.or (some owner.uid)
        targetGid := self.targetGid.or (some owner.gid) }

def initFileOwnership (environment : OwnerEnvironment) (self : FileOwnership)
    (existing : Option FileOwner) : FileOwnership :=
  if self.ownershipInitialized then self
  else
    let ownership : FileOwnership :=
      { ownershipInitialized := true
        targetUid := (ownerId environment.uid).or self.targetUid
        targetGid := (ownerId environment.gid).or self.targetGid }
    if !ownership.targetUid.isSome || !ownership.targetGid.isSome then
      ownership.adoptExistingOwnership existing
    else ownership

/-- What a call of `gooseListener` finds of the file: in `initFileOwnership`, and in
`writeSharedDataset` when the call gets there. -/
structure Call where
  atStart : Option FileOwner
  atWrite : Option (Option FileOwner)

def step (environment : OwnerEnvironment) (self : FileOwnership) (call : Call) :
    FileOwnership × Unit :=
  let ownership := self.initFileOwnership environment call.atStart
  (match call.atWrite with
    | none => ownership
    | some existing => ownership.adoptExistingOwnership existing, ())

/-- The state after some calls of the listener. -/
def after (environment : OwnerEnvironment) (calls : List Call) : FileOwnership :=
  Machine.final (step environment) start calls

end FileOwnership

/-! ### What the variables denote -/

/-- The checks let through what denotes a number that is not negative. -/
theorem acceptOwner_eq (text : Text) :
    acceptOwner text = (integerOf text).bind fun number =>
      if 0 ≤ number then some (min (2 ^ 63 - 1) number) else none := by
  unfold acceptOwner strtol integerOf
  cases scanned : scanInteger text with
  | none => exact if_neg fun checks => checks.1 rfl
  | some pair =>
    obtain ⟨value, rest⟩ := pair
    cases rest with
    | cons character rest => exact if_neg fun checks => nomatch checks.2.1
    | nil =>
      have nonempty : [] ≠ text := by
        rintro rfl
        cases scanned
      simp only [ne_eq, nonempty, not_false_eq_true, true_and, Option.bind_some]
      by_cases nonneg : 0 ≤ value
      · have held : max (-2 ^ 63) (min (2 ^ 63 - 1) value) = min (2 ^ 63 - 1) value := by omega
        rw [held, if_pos (by omega), if_pos nonneg]
      · rw [if_neg (by omega), if_neg nonneg]

/-! ### The targets after a run -/

namespace FileOwnership

/-- The first file found by the writes of some calls. -/
def foundByWrites (calls : List Call) : Option FileOwner :=
  (calls.filterMap Call.atWrite).findSome? id

/-- The files looked at in some calls, in order. -/
def observations : List Call → List (Option FileOwner)
  | [] => []
  | first :: calls => first.atStart :: (first :: calls).filterMap Call.atWrite

def firstExisting (calls : List Call) : Option FileOwner := (observations calls).findSome? id

theorem adoptExistingOwnership_eq (self : FileOwnership) (existing : Option FileOwner) :
    self.adoptExistingOwnership existing =
      ⟨self.ownershipInitialized, self.targetUid.or (existing.map FileOwner.uid),
        self.targetGid.or (existing.map FileOwner.gid)⟩ := by
  obtain ⟨initialized, uid, gid⟩ := self
  unfold adoptExistingOwnership
  cases existing with
  | none => cases uid <;> cases gid <;> rfl
  | some owner => cases uid <;> cases gid <;> rfl

/-- The first call takes the variables, and what they leave open from the file. -/
theorem initFileOwnership_start (environment : OwnerEnvironment) (existing : Option FileOwner) :
    start.initFileOwnership environment existing =
      ⟨true, (ownerId environment.uid).or (existing.map FileOwner.uid),
        (ownerId environment.gid).or (existing.map FileOwner.gid)⟩ := by
  unfold initFileOwnership start
  simp only [adoptExistingOwnership_eq, Option.or_none, Bool.false_eq_true, if_false]
  cases ownerId environment.uid <;> cases ownerId environment.gid <;> rfl

theorem step_fst (environment : OwnerEnvironment) (self : FileOwnership) (call : Call) :
    (self.step environment call).1 =
      (self.initFileOwnership environment call.atStart).adoptExistingOwnership
        call.atWrite.join := by
  rw [step]
  cases call.atWrite with
  | none =>
    dsimp only
    rw [Option.join_none, adoptExistingOwnership_eq, Option.map_none, Option.map_none,
      Option.or_none, Option.or_none]
  | some existing => rfl

theorem foundByWrites_cons (call : Call) (calls : List Call) :
    foundByWrites (call :: calls) = call.atWrite.join.or (foundByWrites calls) := by
  unfold foundByWrites
  cases written : call.atWrite with
  | none =>
    rw [List.filterMap_cons_none written]
    rfl
  | some existing =>
    rw [List.filterMap_cons_some written, List.findSome?_cons]
    cases existing <;> rfl

/-- Once initialised, only the writes look at the file. -/
theorem final_of_initialized (environment : OwnerEnvironment) {self : FileOwnership}
    (initialized : self.ownershipInitialized = true) (calls : List Call) :
    Machine.final (step environment) self calls =
      ⟨true, self.targetUid.or ((foundByWrites calls).map FileOwner.uid),
        self.targetGid.or ((foundByWrites calls).map FileOwner.gid)⟩ := by
  induction calls generalizing self with
  | nil =>
    show self = ⟨true, self.targetUid.or none, self.targetGid.or none⟩
    rw [Option.or_none, Option.or_none, ← initialized]
  | cons call calls inductionHypothesis =>
    have looked : self.initFileOwnership environment call.atStart = self := if_pos initialized
    rw [Machine.final, step_fst, looked, adoptExistingOwnership_eq, initialized,
      inductionHypothesis rfl, foundByWrites_cons]
    simp only [Option.or_assoc, Option.map_or]

/-- What the variables do not give is the owner of the first file seen. -/
theorem after_cons (environment : OwnerEnvironment) (first : Call) (calls : List Call) :
    after environment (first :: calls) =
      ⟨true, (ownerId environment.uid).or ((firstExisting (first :: calls)).map FileOwner.uid),
        (ownerId environment.gid).or ((firstExisting (first :: calls)).map FileOwner.gid)⟩ := by
  have seen : firstExisting (first :: calls) =
      first.atStart.or (first.atWrite.join.or (foundByWrites calls)) := by
    rw [← foundByWrites_cons, firstExisting, observations, List.findSome?_cons]
    cases first.atStart <;> rfl
  rw [after, Machine.final, step_fst, initFileOwnership_start, adoptExistingOwnership_eq,
    final_of_initialized environment rfl, seen]
  simp only [Option.or_assoc, Option.map_or]

/-! ### Exact and stable targets -/

/-- A target is the number its variable denotes, when the checks accept it, and else the one
observed. -/
structure ExactTarget (setting : Option Text) (observed target : Option (BitVec 32)) : Prop where
  accepted : ∀ text, setting = some text → (acceptOwner text).isSome = true →
    ∃ id number, target = some id ∧ integerOf text = some number ∧ (id.toNat : ℤ) = number
  adopted : (∀ text, setting = some text → acceptOwner text = none) → target = observed

/-- The targets after some calls, and after any later ones. -/
structure HandedOver (environment : OwnerEnvironment) (calls : List Call) : Prop where
  uid : ExactTarget environment.uid ((firstExisting calls).map FileOwner.uid)
    (after environment calls).targetUid
  gid : ExactTarget environment.gid ((firstExisting calls).map FileOwner.gid)
    (after environment calls).targetGid
  uidStable : ∀ later id, (after environment calls).targetUid = some id →
    (after environment (calls ++ later)).targetUid = some id
  gidStable : ∀ later id, (after environment calls).targetGid = some id →
    (after environment (calls ++ later)).targetGid = some id

/-- A variable denotes no number of more than 32 bits. -/
def Narrow (setting : Option Text) : Prop :=
  ∀ text number, setting = some text → integerOf text = some number → number < 2 ^ 32

theorem exactTarget_of_rejected {text : Text} (rejected : acceptOwner text = none)
    (observed : Option (BitVec 32)) :
    ExactTarget (some text) observed ((ownerId (some text)).or observed) := by
  rw [ownerId, Option.bind_some, rejected]
  refine ⟨?_, fun _ => rfl⟩
  rintro _ ⟨⟩ accepted
  rw [rejected] at accepted
  cases accepted

theorem exactTarget_iff (setting : Option Text) (observed : Option (BitVec 32)) :
    ExactTarget setting observed ((ownerId setting).or observed) ↔ Narrow setting := by
  cases setting with
  | none => exact iff_of_true ⟨nofun, fun _ => rfl⟩ nofun
  | some text =>
    have accepts := acceptOwner_eq text
    cases denoted : integerOf text with
    | none =>
      rw [denoted, Option.bind_none] at accepts
      refine iff_of_true (exactTarget_of_rejected accepts observed) ?_
      rintro _ number ⟨⟩ impossible
      rw [denoted] at impossible
      cases impossible
    | some number =>
      rw [denoted, Option.bind_some] at accepts
      by_cases nonneg : 0 ≤ number
      · rw [if_pos nonneg] at accepts
        rw [ownerId, Option.bind_some, accepts]
        constructor
        · rintro ⟨exact, -⟩ _ other ⟨⟩ same
          obtain ⟨id, value, -, valued, equal⟩ := exact text rfl (by rw [accepts]; rfl)
          rw [same, Option.some.injEq] at valued
          have bound := id.isLt
          omega
        · intro narrow
          have small := narrow text number rfl denoted
          refine ⟨?_, fun rejected => ?_⟩
          · rintro _ ⟨⟩ -
            refine ⟨_, number, rfl, denoted, ?_⟩
            rw [min_eq_right (by omega), BitVec.toNat_ofInt, Int.toNat_of_nonneg (by omega)]
            exact Int.emod_eq_of_lt nonneg (by exact_mod_cast small)
          · rw [rejected text rfl] at accepts
            cases accepts
      · rw [if_neg nonneg] at accepts
        refine iff_of_true (exactTarget_of_rejected accepts observed) ?_
        rintro _ other ⟨⟩ same
        rw [denoted, Option.some.injEq] at same
        omega

theorem firstExisting_append {calls : List Call} (later : List Call) {owner : FileOwner}
    (found : firstExisting calls = some owner) : firstExisting (calls ++ later) = some owner := by
  cases calls with
  | nil => cases found
  | cons first calls =>
    have split : observations (first :: calls ++ later) =
        observations (first :: calls) ++ later.filterMap Call.atWrite := by
      rw [List.cons_append, observations, observations, List.cons_append, ← List.cons_append,
        List.filterMap_append]
    rw [firstExisting, split, List.findSome?_append]
    rw [firstExisting] at found
    rw [found, Option.some_or]

/-- A target that is there stays when the first file seen does. -/
theorem or_eq_some_of_stable {given : Option (BitVec 32)} {seen later : Option FileOwner}
    (field : FileOwner → BitVec 32) (stable : ∀ owner, seen = some owner → later = some owner)
    {id : BitVec 32} (target : given.or (seen.map field) = some id) :
    given.or (later.map field) = some id := by
  cases given with
  | some _ => exact target
  | none =>
    obtain ⟨owner, found, rfl⟩ := Option.map_eq_some_iff.mp target
    rw [stable owner found]
    rfl

/-- For all values of the two variables and every run of the listener, whatever it finds of the
file: the targets are exact and stable, if and only if neither variable denotes a number of more
than 32 bits. -/
theorem handedOver_iff_narrow (environment : OwnerEnvironment) (first : Call)
    (calls : List Call) :
    HandedOver environment (first :: calls) ↔ Narrow environment.uid ∧ Narrow environment.gid := by
  have uid := exactTarget_iff environment.uid ((firstExisting (first :: calls)).map FileOwner.uid)
  have gid := exactTarget_iff environment.gid ((firstExisting (first :: calls)).map FileOwner.gid)
  have state := after_cons environment first calls
  constructor
  · rintro ⟨exactUid, exactGid, -, -⟩
    rw [state] at exactUid exactGid
    exact ⟨uid.mp exactUid, gid.mp exactGid⟩
  · rintro ⟨narrowUid, narrowGid⟩
    have seen (later : List Call) (owner : FileOwner) :=
      @firstExisting_append (first :: calls) later owner
    refine ⟨?_, ?_, ?_, ?_⟩
    · rw [state]
      exact uid.mpr narrowUid
    · rw [state]
      exact gid.mpr narrowGid
    · intro later id target
      rw [state] at target
      rw [List.cons_append, after_cons]
      exact or_eq_some_of_stable FileOwner.uid (seen later) target
    · intro later id target
      rw [state] at target
      rw [List.cons_append, after_cons]
      exact or_eq_some_of_stable FileOwner.gid (seen later) target

/-- The variable `4294967296` makes `root` the owner. -/
theorem wide_number_hands_over_to_root :
    let environment : OwnerEnvironment := ⟨some "4294967296".toList, some "1000".toList⟩
    (after environment [⟨none, none⟩]).targetUid = some 0 ∧
      ¬ HandedOver environment [⟨none, none⟩] := by
  intro environment
  have target : (after environment [⟨none, none⟩]).targetUid = some 0 := by decide +kernel
  refine ⟨target, fun handed => ?_⟩
  obtain ⟨id, number, there, denoted, equal⟩ :=
    handed.uid.accepted "4294967296".toList rfl (by decide +kernel)
  have value : integerOf "4294967296".toList = some 4294967296 := by decide +kernel
  rw [target, Option.some.injEq] at there
  rw [value, Option.some.injEq] at denoted
  rw [← there, ← denoted] at equal
  cases equal

end FileOwnership

end Substation
