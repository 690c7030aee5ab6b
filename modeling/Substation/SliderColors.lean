/-
This file embeds the colours `update_slider_colors` of `protection_gui.py` gives the
sliders, and compares the red zone with the zone in which the protection logic of
the publisher trips. The thresholds are coded in both programs.

The main result is that for every setting of the sliders the two zones agree, but for
a current of exactly 3500 A: it is painted red and does not trip.
-/

import Substation.Thresholds

namespace Substation

/-! ### update_slider_colors -/

inductive TroughColor
  | green
  | yellow
  | red
  deriving DecidableEq, Repr

def currentColor (current : ℚ) : TroughColor :=
  if current < 2000 then .green
  else if current < 3500 then .yellow
  else .red

/-- A colour by a normal range and the wider range outside of which a value is a fault. -/
def bandColor (low normalLow normalHigh high value : ℚ) : TroughColor :=
  if normalLow ≤ value ∧ value ≤ normalHigh then .green
  else if (low ≤ value ∧ value < normalLow) ∨ (normalHigh < value ∧ value ≤ high) then .yellow
  else .red

def voltageColor : ℚ → TroughColor := bandColor 8000 10000 12000 14000

def frequencyColor : ℚ → TroughColor := bandColor 49 49.5 50.5 51

inductive Measurement
  | current
  | voltage
  | frequency
  deriving DecidableEq, Repr

/-- The colour of the slider of a measurement. -/
def SliderSettings.color (settings : SliderSettings) : Measurement → TroughColor
  | .current => currentColor settings.amperes
  | .voltage => voltageColor settings.volts
  | .frequency => frequencyColor settings.hertz

/-! ### The zones -/

theorem currentColor_eq_red_iff (current : ℚ) : currentColor current = .red ↔ 3500 ≤ current := by
  unfold currentColor
  split_ifs with low middle
  · exact iff_of_false nofun (by linarith)
  · exact iff_of_false nofun (by linarith)
  · exact iff_of_true rfl (not_lt.mp middle)

theorem currentColor_eq_green_iff (current : ℚ) :
    currentColor current = .green ↔ current < 2000 := by
  unfold currentColor
  split_ifs with low middle
  · exact iff_of_true rfl low
  · exact iff_of_false nofun low
  · exact iff_of_false nofun low

theorem bandColor_eq_red_iff {low normalLow normalHigh high : ℚ} (lowLe : low ≤ normalLow)
    (ordered : normalLow ≤ normalHigh) (leHigh : normalHigh ≤ high) (value : ℚ) :
    bandColor low normalLow normalHigh high value = .red ↔ value < low ∨ high < value := by
  unfold bandColor
  split_ifs with normal abnormal
  · refine iff_of_false nofun ?_
    rintro (less | greater) <;> linarith
  · refine iff_of_false nofun ?_
    rcases abnormal with ⟨above, below⟩ | ⟨above, below⟩ <;>
      rintro (less | greater) <;> linarith
  · refine iff_of_true rfl ?_
    by_contra inside
    push Not at inside normal abnormal
    rcases le_or_gt normalLow value with high | low
    · exact absurd (abnormal.2 (normal high)) (not_lt.mpr inside.2)
    · exact absurd (abnormal.1 inside.1) (not_le.mpr low)

/-- Without a manual trip and a fault type, a record trips by an excessive current or by a voltage
or a frequency in the red zone. -/
theorem SliderSettings.tripping_iff {settings : SliderSettings} (noTrip : settings.trip = false)
    (noFault : settings.faultType = 0) :
    settings.Tripping ↔ 3500 < settings.amperes ∨ settings.color .voltage = .red ∨
      settings.color .frequency = .red := by
  have voltage : settings.color .voltage = .red ↔ settings.volts < 8000 ∨ 14000 < settings.volts :=
    bandColor_eq_red_iff (by norm_num) (by norm_num) (by norm_num) _
  have frequency : settings.color .frequency = .red ↔ settings.hertz < 49 ∨ 51 < settings.hertz :=
    bandColor_eq_red_iff (by norm_num) (by norm_num) (by norm_num) _
  rw [Tripping, noTrip, noFault, voltage, frequency, or_assoc]
  simp only [Bool.false_eq_true, lt_self_iff_false, false_or]

/-! ### The red zone and the tripping zone -/

/-- For every setting of the sliders without a manual trip and without a fault type, published in
any turn of the loop, and every measurement beside which the other two are in their green range:
its slider is red if and only if the trip is published, but for a current of 3500 A. -/
theorem red_iff_trip_iff (loop : PublishLoop) (now : ℕ) (settings : SliderSettings)
    (measurement : Measurement) (noTrip : settings.trip = false) (noFault : settings.faultType = 0)
    (others : ∀ other, other ≠ measurement → settings.color other = .green) :
    (settings.color measurement = .red ↔
        (loop.iterate ⟨some settings.record.line, now⟩).2.dataset.tripCommand = true) ↔
      ¬ (measurement = .current ∧ settings.amperes = 3500) := by
  have notRed (other : Measurement) (beside : other ≠ measurement) :
      settings.color other ≠ .red := by
    rw [others other beside]
    exact nofun
  rw [dataset_iterate_line, tripCommand_record, settings.tripping_iff noTrip noFault]
  cases measurement with
  | current =>
    rw [iff_false_intro (notRed .voltage nofun), iff_false_intro (notRed .frequency nofun),
      or_false, or_false]
    show (currentColor settings.amperes = .red ↔ _) ↔ _
    rw [currentColor_eq_red_iff, and_iff_right rfl]
    constructor
    · intro same equal
      exact absurd (same.mp equal.ge) (not_lt.mpr equal.le)
    · intro different
      exact ⟨fun le => lt_of_le_of_ne le (Ne.symm different), le_of_lt⟩
  | voltage =>
    have low := (currentColor_eq_green_iff _).mp (others .current nofun)
    have inRange : ¬ 3500 < settings.amperes := by linarith
    rw [iff_false_intro (notRed .frequency nofun), or_false, iff_false_intro inRange, false_or]
    exact iff_of_true Iff.rfl nofun
  | frequency =>
    have low := (currentColor_eq_green_iff _).mp (others .current nofun)
    have inRange : ¬ 3500 < settings.amperes := by linarith
    rw [iff_false_intro (notRed .voltage nofun), false_or, iff_false_intro inRange, false_or]
    exact iff_of_true Iff.rfl nofun

/-- At 52 Hz the slider is red and the trip is published. -/
theorem red_frequency_trips :
    let settings : SliderSettings :=
      ⟨false, false, 0, 12505, 105, ⟨520, by decide, by decide⟩⟩
    let loop := PublishLoop.start ⟨[2, 0, 0, 0, 0, 1], rfl⟩ 0
    (∀ other, other ≠ Measurement.frequency → settings.color other = .green) ∧
      settings.color .frequency = .red ∧
      (loop.iterate ⟨some settings.record.line, 100⟩).2.dataset.tripCommand = true := by
  intro settings loop
  have others : ∀ other, other ≠ Measurement.frequency → settings.color other = .green := by
    intro other beside
    cases other with
    | current => decide +kernel
    | voltage => decide +kernel
    | frequency => exact absurd rfl beside
  have red : settings.color .frequency = .red := by decide +kernel
  have agrees := (red_iff_trip_iff loop 100 settings .frequency rfl rfl others).mpr
    (fun current => nomatch current.1)
  exact ⟨others, red, agrees.mp red⟩

/-- At 3500 A the slider is red and no trip is published. -/
theorem red_current_does_not_trip :
    let settings : SliderSettings :=
      ⟨false, false, 0, 35000, 105, ⟨500, by decide, by decide⟩⟩
    let loop := PublishLoop.start ⟨[2, 0, 0, 0, 0, 1], rfl⟩ 0
    settings.color .voltage = .green ∧ settings.color .frequency = .green ∧
      settings.color .current = .red ∧
      (loop.iterate ⟨some settings.record.line, 100⟩).2.dataset.tripCommand = false := by
  intro settings loop
  refine ⟨by decide +kernel, by decide +kernel, by decide +kernel, ?_⟩
  rw [dataset_iterate_line]
  decide +kernel

end Substation
