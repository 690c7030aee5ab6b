/-
This file is about the pair of fault type and protection element that the publisher
sends when its protection logic trips. The checks run one after another and each
overwrites both variables, except the manual override: for the fault type 1 it keeps
the element that an earlier check has left.

The main result says exactly when the element published is one of the fault type
published, with its condition true of the record: unless the fault type is set to 1
by hand while the voltage or the frequency is out of range.
-/

import Substation.Thresholds

namespace Substation

open Decimal

/-! ### A comparison that succeeds is true of the number written -/

theorem lt_value_of_floatGreater {numeral : Numeral} {threshold : ℕ} (positive : 0 < threshold)
    (small : threshold < 2 ^ 24)
    (greater : floatGreater (numeralBits numeral) threshold = true) :
    (threshold : ℚ) < numeral.value := by
  obtain ⟨finiteThreshold, valueThreshold⟩ := roundMagnitude_whole positive small
  have nonneg := Ieee.binary32.magnitudeValue_nonneg
    (Ieee.binary32.roundMagnitude numeral.magnitude)
  have order (le : numeral.magnitude ≤ threshold) :=
    @Ieee.Format.roundMagnitude_mono Ieee.binary32 _ _ numeral.magnitude_nonneg le
  rw [floatGreater, numeralBits] at greater
  rw [Numeral.value]
  rcases number_floatOf_cases numeral.negative numeral.magnitude with
    ⟨infinite, number⟩ | ⟨-, number⟩
  · rw [number, Bool.not_eq_true'] at greater
    rw [greater, if_neg Bool.false_ne_true]
    by_contra le
    have magnitudes := order (not_lt.mp le)
    omega
  · rw [number, decide_eq_true_iff] at greater
    cases negative : numeral.negative with
    | true =>
      rw [negative, if_pos rfl] at greater
      have thresholdNonneg : (0 : ℚ) ≤ threshold := Nat.cast_nonneg _
      linarith
    | false =>
      rw [negative, if_neg Bool.false_ne_true] at greater
      rw [if_neg Bool.false_ne_true]
      by_contra le
      have values := @Ieee.Format.magnitudeValue_mono Ieee.binary32 _ _ (order (not_lt.mp le))
      linarith

theorem value_lt_of_floatLess {numeral : Numeral} {threshold : ℕ} (positive : 0 < threshold)
    (small : threshold < 2 ^ 24)
    (less : floatLess (numeralBits numeral) threshold = true) :
    numeral.value < (threshold : ℚ) := by
  obtain ⟨-, valueThreshold⟩ := roundMagnitude_whole positive small
  have thresholdPos : (0 : ℚ) < threshold := by exact_mod_cast positive
  have nonneg := numeral.magnitude_nonneg
  rw [floatLess, numeralBits] at less
  rw [Numeral.value]
  cases negative : numeral.negative with
  | true =>
    rw [if_pos rfl]
    linarith
  | false =>
    rw [if_neg Bool.false_ne_true]
    rcases number_floatOf_cases numeral.negative numeral.magnitude with
      ⟨-, number⟩ | ⟨-, number⟩
    · rw [number, negative] at less
      cases less
    · rw [number, negative, if_neg Bool.false_ne_true, decide_eq_true_iff] at less
      by_contra le
      have values := @Ieee.Format.magnitudeValue_mono Ieee.binary32 _ _
        (@Ieee.Format.roundMagnitude_mono Ieee.binary32 _ _ thresholdPos.le (not_lt.mp le))
      linarith

/-! ### What the checks leave -/

namespace Detection

/-- The checks of the measurements. -/
def measured (data : GuiData) : Detection :=
  (start.overcurrent data).voltage data |>.frequency data

theorem detect_eq (data : GuiData) : detect data = (measured data).manual data := rfl

/-- The last check that applies decides. -/
theorem measured_cases (data : GuiData) :
    (floatLess data.freq 49 || floatGreater data.freq 51) = true ∧ measured data = ⟨true, 3, 81⟩ ∨
      (floatLess data.freq 49 || floatGreater data.freq 51) = false ∧
        (floatLess data.voltage 8000 = true ∧ measured data = ⟨true, 2, 27⟩ ∨
          floatLess data.voltage 8000 = false ∧ floatGreater data.voltage 14000 = true ∧
            measured data = ⟨true, 2, 59⟩ ∨
          floatLess data.voltage 8000 = false ∧ floatGreater data.voltage 14000 = false ∧
            (floatGreater data.current 3500 = true ∧ measured data = ⟨true, 1, 50⟩ ∨
              floatGreater data.current 3500 = false ∧ measured data = start)) := by
  unfold measured frequency voltage overcurrent
  cases outOfFrequency : floatLess data.freq 49 || floatGreater data.freq 51 with
  | true => exact .inl ⟨rfl, if_pos rfl⟩
  | false =>
    rw [if_neg Bool.false_ne_true]
    refine .inr ⟨rfl, ?_⟩
    cases floatLess data.voltage 8000 with
    | true => exact .inl ⟨rfl, rfl⟩
    | false =>
      refine .inr ?_
      cases floatGreater data.voltage 14000 with
      | true => exact .inl ⟨rfl, rfl, rfl⟩
      | false =>
        refine .inr ⟨rfl, rfl, ?_⟩
        cases floatGreater data.current 3500 with
        | true => exact .inl ⟨rfl, rfl⟩
        | false => exact .inr ⟨rfl, rfl⟩

end Detection

/-- When the logic trips, the pair published is the one detected. -/
theorem published_of_trip {data : GuiData}
    (trips : (Detection.detect data).protectionTrip = true) :
    (protectionLogic data).dataset.faultType = (Detection.detect data).detectedFault ∧
      (protectionLogic data).dataset.protElement = (Detection.detect data).protectionElement := by
  unfold protectionLogic
  dsimp only
  rw [if_pos trips]
  exact ⟨rfl, rfl⟩

/-! ### The cause of a pair -/

/-- The pairs of fault type and element, each with its condition on the record. -/
inductive SameCause (record : GuiRecord) : BitVec 32 → BitVec 32 → Prop
  | overcurrent (cause : 3500 < record.current.value ∨ record.faultType = 1) :
    SameCause record 1 50
  | undervoltage (cause : record.voltage.value < 8000) : SameCause record 2 27
  | overvoltage (cause : 14000 < record.voltage.value) : SameCause record 2 59
  | differential (cause : record.faultType = 2) : SameCause record 2 87
  | frequency (cause : record.frequency.value < 49 ∨ 51 < record.frequency.value) :
    SameCause record 3 81
  | distance (cause : record.faultType = 3) : SameCause record 3 21

theorem SameCause.element_of_first {record : GuiRecord} {faultType protElement : BitVec 32}
    (cause : SameCause record faultType protElement) (first : faultType = 1) :
    protElement = 50 := by
  cases cause with
  | overcurrent => rfl
  | undervoltage => cases first
  | overvoltage => cases first
  | differential => cases first
  | frequency => cases first
  | distance => cases first

/-- The fault type is set to 1 by hand while the voltage or the frequency, as it is read, is out
of range. -/
def KeepsElement (data : GuiData) : Prop :=
  data.faultType = 1 ∧
    (floatLess data.voltage 8000 = true ∨ floatGreater data.voltage 14000 = true ∨
      floatLess data.freq 49 = true ∨ floatGreater data.freq 51 = true)

theorem not_keepsElement {data : GuiData} (other : data.faultType ≠ 1) : ¬ KeepsElement data :=
  fun keeps => other keeps.1

/-- A check that trips names its cause. -/
theorem sameCause_measured (record : GuiRecord)
    (trips : (Detection.measured record.data).protectionTrip = true) :
    SameCause record (Detection.measured record.data).detectedFault
      (Detection.measured record.data).protectionElement := by
  rcases Detection.measured_cases record.data with
    ⟨outOfFrequency, found⟩ | ⟨-, ⟨less, found⟩ | ⟨-, greater, found⟩ | ⟨-, -, ⟨much, found⟩ |
      ⟨-, found⟩⟩⟩
  · rw [found]
    rcases Bool.or_eq_true_iff.mp outOfFrequency with less | greater
    · exact .frequency (.inl (@value_lt_of_floatLess _ 49 (by decide) (by decide) less))
    · exact .frequency (.inr (@lt_value_of_floatGreater _ 51 (by decide) (by decide) greater))
  · rw [found]
    exact .undervoltage (@value_lt_of_floatLess _ 8000 (by decide) (by decide) less)
  · rw [found]
    exact .overvoltage (@lt_value_of_floatGreater _ 14000 (by decide) (by decide) greater)
  · rw [found]
    exact .overcurrent (.inl (@lt_value_of_floatGreater _ 3500 (by decide) (by decide) much))
  · rw [found] at trips
    cases trips

/-- The element that the override for the fault type 1 keeps is 50 unless the voltage or the
frequency is out of range. -/
theorem protectionElement_measured (data : GuiData) :
    (Detection.measured data).protectionElement = 50 ↔
      ¬ (floatLess data.voltage 8000 = true ∨ floatGreater data.voltage 14000 = true ∨
        floatLess data.freq 49 = true ∨ floatGreater data.freq 51 = true) := by
  rcases Detection.measured_cases data with
    ⟨outOfFrequency, found⟩ | ⟨inFrequency, ⟨less, found⟩ | ⟨-, greater, found⟩ |
      ⟨notLess, notGreater, ⟨-, found⟩ | ⟨-, found⟩⟩⟩
  · rw [found]
    refine iff_of_false (by decide) (not_not_intro (.inr (.inr ?_)))
    exact Bool.or_eq_true_iff.mp outOfFrequency
  · rw [found]
    exact iff_of_false (by decide) (not_not_intro (.inl less))
  · rw [found]
    exact iff_of_false (by decide) (not_not_intro (.inr (.inl greater)))
  all_goals
    rw [Bool.or_eq_false_iff] at inFrequency
    rw [found, notLess, notGreater, inFrequency.1, inFrequency.2]
    decide

/-- The detection for each fault type the GUI offers. -/
theorem detect_of_selectable {data : GuiData} (selectable : data.faultType.toNat ≤ 3) :
    data.faultType = 0 ∧ Detection.detect data = Detection.measured data ∨
      data.faultType = 1 ∧
        Detection.detect data = ⟨true, 1, (Detection.measured data).protectionElement⟩ ∨
      data.faultType = 2 ∧ Detection.detect data = ⟨true, 2, 87⟩ ∨
      data.faultType = 3 ∧ Detection.detect data = ⟨true, 3, 21⟩ := by
  have listed : data.faultType = 0 ∨ data.faultType = 1 ∨ data.faultType = 2 ∨
      data.faultType = 3 := by
    simp only [← BitVec.toNat_inj]
    show _ = 0 ∨ _ = 1 ∨ _ = 2 ∨ _ = 3
    omega
  rw [Detection.detect_eq, Detection.manual]
  rcases listed with zero | one | two | three
  · rw [zero]
    exact .inl ⟨rfl, rfl⟩
  · rw [one]
    exact .inr (.inl ⟨rfl, rfl⟩)
  · rw [two]
    exact .inr (.inr (.inl ⟨rfl, rfl⟩))
  · rw [three]
    exact .inr (.inr (.inr ⟨rfl, rfl⟩))

/-- For every record of the GUI, read in any turn of the publisher loop: whenever the protection
logic trips, the pair published is one of the table and its condition is true of the record, if and
only if the fault type is not set to 1 by hand with the voltage or the frequency out of range. -/
theorem published_pair_names_cause_iff (loop : PublishLoop) (now : ℕ) (record : GuiRecord)
    (selectable : record.faultType.toNat ≤ 3) :
    let published := (loop.iterate ⟨some record.line, now⟩).2.dataset
    ((Detection.detect record.data).protectionTrip = true →
        SameCause record published.faultType published.protElement) ↔
      ¬ KeepsElement record.data := by
  intro published
  rw [show published = (protectionLogic record.data).dataset from
    dataset_iterate_line loop now record]
  have pair := @published_of_trip record.data
  rcases @detect_of_selectable record.data selectable with
    ⟨zero, detected⟩ | ⟨one, detected⟩ | ⟨two, detected⟩ | ⟨three, detected⟩
  · refine iff_of_true (fun trips => ?_) (not_keepsElement (by rw [zero]; decide))
    rw [(pair trips).1, (pair trips).2, detected]
    rw [detected] at trips
    exact sameCause_measured record trips
  · have trips : (Detection.detect record.data).protectionTrip = true := by rw [detected]
    rw [(pair trips).1, (pair trips).2, detected]
    rw [show KeepsElement record.data ↔ _ from and_iff_right one, ← protectionElement_measured]
    constructor
    · intro cause
      exact (cause rfl).element_of_first rfl
    · intro element _
      rw [element]
      exact .overcurrent (.inr one)
  · have trips : (Detection.detect record.data).protectionTrip = true := by rw [detected]
    rw [(pair trips).1, (pair trips).2, detected]
    exact iff_of_true (fun _ => .differential two) (not_keepsElement (by rw [two]; decide))
  · have trips : (Detection.detect record.data).protectionTrip = true := by rw [detected]
    rw [(pair trips).1, (pair trips).2, detected]
    exact iff_of_true (fun _ => .distance three) (not_keepsElement (by rw [three]; decide))

/-- A record with a voltage of 7000 V and no fault type set: the pair is 2 and 27. -/
theorem undervoltage_names_cause :
    let record : GuiRecord := ⟨false, false, 0, 50, .tenths 12505, .tenths 70000, .tenths 498⟩
    let loop := PublishLoop.start ⟨[2, 0, 0, 0, 0, 1], rfl⟩ 0
    let published := (loop.iterate ⟨some record.line, 100⟩).2.dataset
    record.faultType.toNat ≤ 3 ∧ (Detection.detect record.data).protectionTrip = true ∧
      SameCause record published.faultType published.protElement := by
  intro record loop published
  have trips : (Detection.detect record.data).protectionTrip = true := by decide +kernel
  refine ⟨by decide, trips, ?_⟩
  refine (published_pair_names_cause_iff loop 100 record (by decide)).mpr (fun keeps => ?_) trips
  exact absurd keeps.1 (by decide)

/-- The fault type 1 set by hand at 7000 V is published with the element 27. -/
theorem manual_overcurrent_names_undervoltage :
    let record : GuiRecord := ⟨false, false, 1, 50, .tenths 12505, .tenths 70000, .tenths 498⟩
    let loop := PublishLoop.start ⟨[2, 0, 0, 0, 0, 1], rfl⟩ 0
    let published := (loop.iterate ⟨some record.line, 100⟩).2.dataset
    (Detection.detect record.data).protectionTrip = true ∧
      published.faultType = 1 ∧ published.protElement = 27 ∧
      ¬ SameCause record published.faultType published.protElement := by
  intro record loop published
  have pair : published.faultType = 1 ∧ published.protElement = 27 := by decide +kernel
  refine ⟨by decide +kernel, pair.1, pair.2, fun cause => ?_⟩
  have element := cause.element_of_first pair.1
  rw [pair.2] at element
  cases element

end Substation
