/-
This file is about the pace of the poll loop of `breaker_gui.py`. A turn opens the
shared file and is meant to end with a sleep; a `continue` in the `try` block goes
back to the open without it.

The main result says exactly which runs have one sleep between any two opens: those
in which no turn but the last finds a blank file or the payload accepted before.
-/

import Substation.BreakerGui

namespace Substation

open Decimal

/-! ### The turns of the loop -/

/-- How a turn leaves the `try` block. -/
inductive WayOut
  /-- By the end of the block or of an `except` clause: the sleep follows. -/
  | finished
  /-- By `continue`: the next turn follows. -/
  | continued
  deriving DecidableEq, Repr

inductive LoopAction
  | opened
  | slept
  deriving DecidableEq, Repr

namespace BreakerIed

def wayOut (self : BreakerIed) : PollOutcome → WayOut
  | .missing => .finished
  | .permissionDenied => .finished
  | .failed => .finished
  | .content text =>
    if strip text = [] then .continued
    else if some (strip text) = self.lastPayload then .continued
    else .finished

/-- What a turn does after it has opened the file. -/
def afterOpen (self : BreakerIed) (outcome : PollOutcome) : List LoopAction :=
  match self.wayOut outcome with
  | .finished => [.slept]
  | .continued => []

/-- A turn of the loop with the actions it takes. -/
def turn (self : BreakerIed) (outcome : PollOutcome) : BreakerIed × List LoopAction :=
  ((self.runSubscriber outcome).1, .opened :: self.afterOpen outcome)

/-- Everything the loop does in some turns. -/
def trace (self : BreakerIed) (outcomes : List PollOutcome) : List LoopAction :=
  (Machine.outputs turn self outcomes).flatten

end BreakerIed

/-! ### One sleep between two opens -/

/-- The parts of a trace between two consecutive opens. -/
def gaps (trace : List LoopAction) : List (List LoopAction) :=
  (trace.splitOn .opened).tail.dropLast

def Paced (trace : List LoopAction) : Prop := ∀ gap ∈ gaps trace, gap.count .slept = 1

/-- Pieces that all follow the same mark. -/
theorem intercalate_nil_cons {Piece : Type*} (mark : Piece) (pieces : List (List Piece)) :
    [mark].intercalate ([] :: pieces) = (pieces.map (mark :: ·)).flatten := by
  have start (first : List Piece) (rest : List (List Piece)) :
      [mark].intercalate (first :: rest) = first ++ [mark].intercalate ([] :: rest) := by
    cases rest with
    | nil => rw [List.intercalate_singleton, List.intercalate_singleton, List.append_nil]
    | cons second rest =>
      rw [List.intercalate_cons_cons, List.intercalate_cons_cons, List.nil_append,
        List.append_assoc]
  induction pieces with
  | nil => rfl
  | cons piece pieces inductionHypothesis =>
    rw [List.intercalate_cons_cons, start, inductionHypothesis, List.map_cons, List.flatten_cons]
    rfl

namespace BreakerIed

/-- The file is blank, or holds the payload accepted last. -/
def Skips (self : BreakerIed) (outcome : PollOutcome) : Prop :=
  ∃ text, outcome = .content text ∧ (strip text = [] ∨ self.lastPayload = some (strip text))

theorem count_afterOpen (self : BreakerIed) (outcome : PollOutcome) :
    (self.afterOpen outcome).count .slept = 1 ↔ ¬ self.Skips outcome := by
  cases outcome with
  | missing => exact iff_of_true rfl (by rintro ⟨text, impossible, -⟩; cases impossible)
  | permissionDenied => exact iff_of_true rfl (by rintro ⟨text, impossible, -⟩; cases impossible)
  | failed => exact iff_of_true rfl (by rintro ⟨text, impossible, -⟩; cases impossible)
  | content text =>
    rw [afterOpen, wayOut]
    split_ifs with blank same
    · exact iff_of_false (by decide) (not_not_intro ⟨text, rfl, .inl blank⟩)
    · exact iff_of_false (by decide) (not_not_intro ⟨text, rfl, .inr same.symm⟩)
    · refine iff_of_true rfl ?_
      rintro ⟨other, equal, skipped⟩
      cases equal
      rcases skipped with empty | last
      · exact blank empty
      · exact same last.symm

theorem opened_not_mem_afterOpen (self : BreakerIed) (outcome : PollOutcome) :
    LoopAction.opened ∉ self.afterOpen outcome := by
  unfold afterOpen
  cases self.wayOut outcome <;> decide

/-- What the turns do after their opens. -/
def rests (self : BreakerIed) (outcomes : List PollOutcome) : List (List LoopAction) :=
  (Machine.outputs turn self outcomes).map List.tail

theorem getElem?_rests (self : BreakerIed) (outcomes : List PollOutcome) (index : ℕ) :
    (self.rests outcomes)[index]? = outcomes[index]?.map fun outcome =>
      (Machine.final turn self (outcomes.take index)).afterOpen outcome := by
  rw [rests, List.getElem?_map, Machine.getElem?_outputs, Option.map_map]
  rfl

theorem length_rests (self : BreakerIed) (outcomes : List PollOutcome) :
    (self.rests outcomes).length = outcomes.length := by
  rw [rests, List.length_map]
  induction outcomes generalizing self with
  | nil => rfl
  | cons outcome outcomes inductionHypothesis =>
    rw [Machine.outputs, List.length_cons, List.length_cons, inductionHypothesis]

theorem trace_eq (self : BreakerIed) (outcomes : List PollOutcome) :
    self.trace outcomes = [LoopAction.opened].intercalate ([] :: self.rests outcomes) := by
  rw [intercalate_nil_cons, rests, List.map_map, trace]
  congr 1
  symm
  refine (List.map_congr_left fun actions member => ?_).trans (List.map_id _)
  obtain ⟨index, found⟩ := List.mem_iff_getElem?.mp member
  rw [Machine.getElem?_outputs, Option.map_eq_some_iff] at found
  obtain ⟨outcome, -, rfl⟩ := found
  rfl

theorem gaps_trace (self : BreakerIed) (outcomes : List PollOutcome) :
    gaps (self.trace outcomes) = (self.rests outcomes).dropLast := by
  rw [gaps, trace_eq, List.splitOn_intercalate]
  · rfl
  · intro piece member
    rcases List.mem_cons.mp member with empty | rest
    · rw [empty]
      exact List.not_mem_nil
    · obtain ⟨index, found⟩ := List.mem_iff_getElem?.mp rest
      rw [getElem?_rests, Option.map_eq_some_iff] at found
      obtain ⟨outcome, -, rfl⟩ := found
      exact opened_not_mem_afterOpen _ outcome
  · exact List.cons_ne_nil _ _

/-- In every run of the loop there is exactly one sleep between any two consecutive opens, if and
only if no turn but the last finds a file that is blank or holds the payload accepted last. -/
theorem paced_iff_no_skip (self : BreakerIed) (outcomes : List PollOutcome) :
    Paced (self.trace outcomes) ↔
      ∀ index outcome, index + 1 < outcomes.length → outcomes[index]? = some outcome →
        ¬ (Machine.final turn self (outcomes.take index)).Skips outcome := by
  rw [Paced, gaps_trace]
  constructor
  · intro paced index outcome early found
    refine (count_afterOpen _ outcome).mp (paced _ (List.mem_iff_getElem?.mpr ⟨index, ?_⟩))
    rw [List.getElem?_dropLast, if_pos (by rw [length_rests]; omega), getElem?_rests, found]
    rfl
  · intro steady gap member
    obtain ⟨index, found⟩ := List.mem_iff_getElem?.mp member
    rw [List.getElem?_dropLast, length_rests, Option.ite_none_right_eq_some, getElem?_rests,
      Option.map_eq_some_iff] at found
    obtain ⟨early, outcome, atIndex, rfl⟩ := found
    exact (count_afterOpen _ outcome).mpr (steady index outcome (by omega) atIndex)

/-- A file that does not change is polled again without a sleep. -/
theorem unchanged_payload_polled_without_sleep :
    ¬ Paced (start.trace
      [.content "0,0,0,50,0.0,0,49.8\n".toList, .content "0,0,0,50,0.0,0,49.8\n".toList,
        .content "0,0,0,50,0.0,0,49.8\n".toList]) := by
  intro paced
  have gap := paced [] (by decide +kernel)
  cases gap

end BreakerIed

end Substation
