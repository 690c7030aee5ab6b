/-
This file is the run of a machine that takes one step for each event: the state
after a list of events, the outputs on the way, and the rule that carries an
invariant from the start to every state reached. A machine may also stop for good
in the middle of a step; such a run has no state after it.
-/

import Mathlib.Data.List.Basic
import Mathlib.Data.List.ReduceOption
import Mathlib.Data.Option.Basic

namespace Machine

variable {State Event Output : Type*}

/-! ### Machines that always take their step -/

section Total

variable (step : State → Event → State × Output)

/-- The state after some events. -/
def final : State → List Event → State
  | state, [] => state
  | state, event :: events => final (step state event).1 events

/-- The outputs of some events, in order. -/
def outputs : State → List Event → List Output
  | _, [] => []
  | state, event :: events => (step state event).2 :: outputs (step state event).1 events

theorem final_append (state : State) (first second : List Event) :
    final step state (first ++ second) = final step (final step state first) second := by
  induction first generalizing state with
  | nil => rfl
  | cons event first inductionHypothesis => exact inductionHypothesis _

theorem final_invariant (Invariant : State → Prop)
    (preserved : ∀ state event, Invariant state → Invariant (step state event).1)
    {state : State} (initially : Invariant state) (events : List Event) :
    Invariant (final step state events) := by
  induction events generalizing state with
  | nil => exact initially
  | cons event events inductionHypothesis =>
    exact inductionHypothesis (preserved state event initially)

/-- An invariant that only the events of the run have to keep. -/
theorem final_invariant_of_mem (Invariant : State → Prop) {events : List Event}
    (preserved : ∀ state, ∀ event ∈ events, Invariant state → Invariant (step state event).1)
    {state : State} (initially : Invariant state) : Invariant (final step state events) := by
  induction events generalizing state with
  | nil => exact initially
  | cons event events inductionHypothesis =>
    rw [final]
    exact inductionHypothesis
      (fun state later member => preserved state later (List.mem_cons_of_mem event member))
      (preserved state event List.mem_cons_self initially)

/-- An invariant that a step keeps under a condition, which every event of the run meets in the
state before it. -/
theorem final_invariant_of_condition (Invariant : State → Prop) {Condition : State → Event → Prop}
    (preserved : ∀ state event, Invariant state → Condition state event →
      Invariant (step state event).1)
    {state : State} (initially : Invariant state) {events : List Event}
    (met : ∀ index event, events[index]? = some event →
      Condition (final step state (events.take index)) event) :
    Invariant (final step state events) := by
  induction events generalizing state with
  | nil => exact initially
  | cons event events inductionHypothesis =>
    refine inductionHypothesis (preserved state event initially (met 0 event rfl)) ?_
    intro index later found
    exact met (index + 1) later found

/-- Two machines that take the same events stay related when every step keeps them so. -/
theorem final_simulation {Other Seen : Type*} (other : Other → Event → Other × Seen)
    (Related : State → Other → Prop)
    (preserved : ∀ state related event, Related state related →
      Related (step state event).1 (other related event).1)
    {state : State} {related : Other} (initially : Related state related) (events : List Event) :
    Related (final step state events) (final other related events) := by
  induction events generalizing state related with
  | nil => exact initially
  | cons event events inductionHypothesis =>
    exact inductionHypothesis (preserved state related event initially)

/-- Related machines put out the same, up to a translation. -/
theorem outputs_simulation {Other Seen : Type*} (other : Other → Event → Other × Seen)
    (translate : Seen → Output) (Related : State → Other → Prop)
    (preserved : ∀ state related event, Related state related →
      Related (step state event).1 (other related event).1 ∧
        (step state event).2 = translate (other related event).2)
    {state : State} {related : Other} (initially : Related state related) (events : List Event) :
    outputs step state events = (outputs other related events).map translate := by
  induction events generalizing state related with
  | nil => rfl
  | cons event events inductionHypothesis =>
    obtain ⟨still, same⟩ := preserved state related event initially
    rw [outputs, outputs, List.map_cons, same, inductionHypothesis still]

/-- A machine that puts out at most one event of another machine in each step stays related to
that machine when it takes the events put out, as long as a condition holds of every step. -/
theorem final_stuttering {Other Action Seen : Type*} (fine : State → Event → State × Option Action)
    (coarse : Other → Action → Other × Seen) (Related : State → Other → Prop)
    {Condition : State → Event → Prop}
    (preserved : ∀ state related event, Related state related → Condition state event →
      Related (fine state event).1 (final coarse related (fine state event).2.toList))
    {state : State} {related : Other} (initially : Related state related) {events : List Event}
    (met : ∀ index event, events[index]? = some event →
      Condition (final fine state (events.take index)) event) :
    Related (final fine state events)
      (final coarse related (outputs fine state events).reduceOption) := by
  induction events generalizing state related with
  | nil => exact initially
  | cons event events inductionHypothesis =>
    have split : (outputs fine state (event :: events)).reduceOption =
        (fine state event).2.toList ++ (outputs fine (fine state event).1 events).reduceOption := by
      rw [outputs]
      cases (fine state event).2 <;> rfl
    rw [final, split, final_append]
    refine inductionHypothesis (preserved state related event initially (met 0 event rfl)) ?_
    intro index later found
    exact met (index + 1) later found

/-- An output is that of its event in the state the events before it lead to. -/
theorem getElem?_outputs (state : State) (events : List Event) (index : Nat) :
    (outputs step state events)[index]? =
      events[index]?.map fun event =>
        (step (final step state (events.take index)) event).2 := by
  induction events generalizing state index with
  | nil => rfl
  | cons event events inductionHypothesis =>
    cases index with
    | zero => rfl
    | succ index =>
      rw [outputs, List.getElem?_cons_succ, List.getElem?_cons_succ, inductionHypothesis,
        List.take_succ_cons, final]

theorem final_take_succ (state : State) {events : List Event} {index : Nat} {event : Event}
    (found : events[index]? = some event) :
    final step state (events.take (index + 1)) =
      (step (final step state (events.take index)) event).1 := by
  rw [List.take_add_one, found, Option.toList_some, final_append]
  rfl

/-- Some event of a run meets a condition in the state before it. -/
def Occurs (Raises : State → Event → Prop) (state : State) (events : List Event) : Prop :=
  ∃ index event, events[index]? = some event ∧
    Raises (final step state (events.take index)) event

theorem occurs_nil (Raises : State → Event → Prop) (state : State) :
    ¬ Occurs step Raises state [] := by
  rintro ⟨index, event, found, -⟩
  cases found

theorem occurs_cons {Raises : State → Event → Prop} {state : State} {event : Event}
    {events : List Event} :
    Occurs step Raises state (event :: events) ↔
      Raises state event ∨ Occurs step Raises (step state event).1 events := by
  constructor
  · rintro ⟨index, later, found, raises⟩
    cases index with
    | zero =>
      rw [List.getElem?_cons_zero, Option.some.injEq] at found
      exact .inl (found ▸ raises)
    | succ index => exact .inr ⟨index, later, found, raises⟩
  · rintro (raises | ⟨index, later, found, raises⟩)
    · exact ⟨0, event, rfl, raises⟩
    · exact ⟨index + 1, later, found, raises⟩

/-- A flag that only some events raise, and that none lowers, is up when one of them occurred. -/
theorem final_flag (Flag : State → Prop) {Raises : State → Event → Prop}
    (raised : ∀ state event, Flag (step state event).1 ↔ Flag state ∨ Raises state event)
    (state : State) (events : List Event) :
    Flag (final step state events) ↔ Flag state ∨ Occurs step Raises state events := by
  induction events generalizing state with
  | nil => exact (or_iff_left (occurs_nil step Raises state)).symm
  | cons event events inductionHypothesis =>
    rw [final, inductionHypothesis, raised, occurs_cons, or_assoc]

/-- A rank that every event of a kind lowers, and that none raises, falls by their number. -/
theorem final_rank (rank : State → Nat) (kind : Event → Bool)
    (falls : ∀ state event, rank (step state event).1 ≤ rank state - (kind event).toNat)
    (state : State) (events : List Event) :
    rank (final step state events) ≤ rank state - events.countP kind := by
  induction events generalizing state with
  | nil => exact Nat.le_refl _
  | cons event events inductionHypothesis =>
    have first := falls state event
    have later := inductionHypothesis (step state event).1
    have count : (event :: events).countP kind = events.countP kind + (kind event).toNat := by
      rw [List.countP_cons]
      cases kind event <;> rfl
    rw [final, count]
    omega

end Total

/-! ### Machines that may stop in a step -/

section Partial

variable (step : State → Event → Option (State × Output))

/-- The state after some events, when no step stopped. -/
def reach : State → List Event → Option State
  | state, [] => some state
  | state, event :: events =>
    match step state event with
    | none => none
    | some (next, _) => reach next events

theorem reach_invariant (Invariant : State → Prop)
    (preserved : ∀ state event next output, Invariant state →
      step state event = some (next, output) → Invariant next)
    {state last : State} (initially : Invariant state) {events : List Event}
    (reached : reach step state events = some last) : Invariant last := by
  induction events generalizing state with
  | nil =>
    rw [reach, Option.some.injEq] at reached
    exact reached ▸ initially
  | cons event events inductionHypothesis =>
    rw [reach] at reached
    cases taken : step state event with
    | none => rw [taken] at reached; cases reached
    | some pair =>
      obtain ⟨next, output⟩ := pair
      rw [taken] at reached
      exact inductionHypothesis (preserved state event next output initially taken) reached

/-- Something holds of every step of a run, up to the step in which it stops. -/
def Always (Holds : State → Event → Prop) (state : State) (events : List Event) : Prop :=
  ∀ index reached event, reach step state (events.take index) = some reached →
    events[index]? = some event → Holds reached event

theorem always_nil (Holds : State → Event → Prop) (state : State) :
    Always step Holds state [] := by
  intro index reached event _ found
  cases found

theorem always_cons {Holds : State → Event → Prop} {state : State} {event : Event}
    {events : List Event} :
    Always step Holds state (event :: events) ↔
      Holds state event ∧ ∀ next output, step state event = some (next, output) →
        Always step Holds next events := by
  constructor
  · intro always
    refine ⟨always 0 state event rfl rfl, ?_⟩
    intro next output taken index reached later found at_
    refine always (index + 1) reached later ?_ at_
    rw [List.take_succ_cons, reach, taken]
    exact found
  · rintro ⟨now, later⟩ index reached found reaches at_
    cases index with
    | zero =>
      rw [List.take_zero, reach, Option.some.injEq] at reaches
      rw [List.getElem?_cons_zero, Option.some.injEq] at at_
      exact reaches ▸ at_ ▸ now
    | succ index =>
      rw [List.take_succ_cons, reach] at reaches
      cases taken : step state event with
      | none => rw [taken] at reaches; cases reaches
      | some pair =>
        obtain ⟨next, output⟩ := pair
        rw [taken] at reaches
        exact later next output taken index reached found reaches at_

/-- A condition on the steps of a run carries an invariant, and with it what the condition is
there for. -/
theorem Always.of_invariant (Invariant : State → Prop) {Condition Holds : State → Event → Prop}
    (preserved : ∀ state event next output, Invariant state → Condition state event →
      step state event = some (next, output) → Invariant next)
    (implies : ∀ state event, Invariant state → Condition state event → Holds state event)
    {state : State} (initially : Invariant state) {events : List Event}
    (conditions : Always step Condition state events) : Always step Holds state events := by
  induction events generalizing state with
  | nil => exact always_nil step Holds state
  | cons event events inductionHypothesis =>
    obtain ⟨now, later⟩ := (always_cons step).mp conditions
    refine (always_cons step).mpr ⟨implies state event initially now, ?_⟩
    intro next output taken
    exact inductionHypothesis (preserved state event next output initially now taken)
      (later next output taken)

end Partial

end Machine
