/-
This file is about the records the sliders of the protection GUI can give and the
thresholds of the protection logic. A slider value has one decimal place; its
`float` is so near to it that it lies on the same side of every whole number, and a
whole number is read exactly. So the logic of the publisher trips exactly on the
records that are out of range.
-/

import Substation.PublisherProgram

namespace Substation

open Decimal

/-! ### Tenths and whole numbers -/

/-- What a decimal number is read as. -/
theorem number_floatOf_cases (negative : Bool) (q : ℚ) :
    Ieee.binary32.roundMagnitude q = Ieee.binary32.infinity ∧
        Ieee.number Ieee.binary32 (floatOf negative q).toNat = .infinite negative ∨
      Ieee.binary32.roundMagnitude q < Ieee.binary32.infinity ∧
        Ieee.number Ieee.binary32 (floatOf negative q).toNat =
          .finite (if negative then -Ieee.binary32.magnitudeValue (Ieee.binary32.roundMagnitude q)
            else Ieee.binary32.magnitudeValue (Ieee.binary32.roundMagnitude q)) := by
  have most := Ieee.binary32.roundMagnitude_le_infinity q
  have below := most.trans_lt Ieee.binary32.infinity_lt_signWeight
  rw [toNat_floatOf, Ieee.number, Ieee.ofRat, Ieee.Format.magnitude_withSign _ below,
    Ieee.Format.sign_withSign _ below, if_neg most.not_gt]
  rcases most.eq_or_lt with infinite | finite
  · exact .inl ⟨infinite, if_pos infinite⟩
  · exact .inr ⟨finite, if_neg finite.ne⟩

theorem number_floatOf {q : ℚ} (finite : Ieee.binary32.roundMagnitude q < Ieee.binary32.infinity) :
    Ieee.number Ieee.binary32 (floatOf false q).toNat =
      .finite (Ieee.binary32.magnitudeValue (Ieee.binary32.roundMagnitude q)) := by
  rcases number_floatOf_cases false q with ⟨infinite, -⟩ | ⟨-, number⟩
  · exact absurd infinite finite.ne
  · exact number

/-- A whole number is a `float`. -/
theorem roundMagnitude_whole {threshold : ℕ} (positive : 0 < threshold)
    (small : threshold < 2 ^ 24) :
    Ieee.binary32.roundMagnitude threshold < Ieee.binary32.infinity ∧
      Ieee.binary32.magnitudeValue (Ieee.binary32.roundMagnitude threshold) = threshold := by
  have exact := @Ieee.Format.magnitudeValue_roundMagnitude_of_representable Ieee.binary32
    threshold 0 positive small (by decide) (by decide)
  rwa [zpow_zero, mul_one] at exact

/-- The `float` of a number of tenths lies less than half a tenth away from it. -/
theorem number_tenths {value : ℕ} (positive : 0 < value) (bound : value ≤ 150000) :
    ∃ rounded : ℚ, Ieee.number Ieee.binary32 (numeralBits (.tenths value)).toNat =
        .finite rounded ∧ |rounded - value / 10| < 1 / 20 := by
  obtain ⟨q, q_eq⟩ : ∃ q : ℚ, q = value / 10 := ⟨_, rfl⟩
  have one : (1 : ℚ) ≤ value := by exact_mod_cast positive
  have most : (value : ℚ) ≤ 150000 := by exact_mod_cast bound
  have qPos : 0 < q := by rw [q_eq]; linarith
  have qLe : q ≤ 15000 := by rw [q_eq]; linarith
  have exponents : Ieee.binary32.minExponent = -149 := by decide
  have fraction : Ieee.binary32.fractionBits = 23 := rfl
  have width : Ieee.binary32.exponentBits = 8 := rfl
  have lower : -4 ≤ Int.log 2 q := by
    rw [← Int.zpow_le_iff_le_log (by decide) qPos, q_eq]
    norm_num
    linarith
  have upper : Int.log 2 q < 14 := by
    rw [← Int.lt_zpow_iff_log_lt (by decide) qPos]
    norm_num
    linarith
  have bounded : Int.log 2 q + 4 ≤ 2 ^ Ieee.binary32.exponentBits + Ieee.binary32.minExponent +
      Ieee.binary32.fractionBits := by
    rw [exponents, fraction, width]
    omega
  have normal : Ieee.binary32.minExponent + Ieee.binary32.fractionBits ≤ Int.log 2 q := by
    rw [exponents, fraction]
    omega
  have finite := (Ieee.Format.magnitudeValue_round qPos bounded).1
  have error := Ieee.Format.roundMagnitude_error qPos normal bounded
  refine ⟨_, by rw [numeralBits, Numeral.magnitude_tenths, ← q_eq]; exact number_floatOf finite, ?_⟩
  rw [← q_eq]
  refine lt_of_le_of_lt error ?_
  rw [fraction, div_lt_iff₀ (by positivity)]
  norm_num
  linarith

/-- A positive whole number is read exactly. -/
theorem number_tenths_whole {value : ℕ} (positive : 0 < value) (bound : value < 2 ^ 24) :
    Ieee.number Ieee.binary32 (numeralBits (.tenths (10 * value))).toNat = .finite value := by
  have whole : (Numeral.tenths (10 * value)).magnitude = value := by
    rw [Numeral.magnitude_tenths]
    push_cast
    ring
  obtain ⟨finite, value_eq⟩ := roundMagnitude_whole positive bound
  rw [numeralBits, whole]
  show Ieee.number Ieee.binary32 (floatOf false _).toNat = _
  rw [number_floatOf finite, value_eq]

/-- Reading a number of tenths keeps it on its side of every positive whole number. -/
theorem compare_tenths {value threshold : ℕ} (bound : value ≤ 150000) (positive : 0 < threshold)
    (small : threshold < 2 ^ 24) :
    ∃ rounded : ℚ, Ieee.number Ieee.binary32 (numeralBits (.tenths value)).toNat =
        .finite rounded ∧
      ((threshold : ℚ) < rounded ↔ 10 * threshold < value) ∧
      (rounded < threshold ↔ value < 10 * threshold) := by
  rcases Nat.eq_zero_or_pos value with zero | valuePos
  · subst zero
    have thresholdPos : (0 : ℚ) < threshold := by exact_mod_cast positive
    refine ⟨0, by decide +kernel, ?_, ?_⟩
    · exact ⟨fun less => absurd less (not_lt.mpr thresholdPos.le), fun less => absurd less (by omega)⟩
    · exact ⟨fun _ => by omega, fun _ => thresholdPos⟩
  · rcases lt_trichotomy value (10 * threshold) with below | equal | above
    · obtain ⟨rounded, number, near⟩ := number_tenths valuePos bound
      have cast : (value : ℚ) + 1 ≤ 10 * threshold := by exact_mod_cast below
      have less : rounded < threshold := by
        have error := (abs_lt.mp near).2
        linarith
      exact ⟨rounded, number, ⟨fun greater => absurd greater less.not_gt,
        fun greater => absurd greater below.not_gt⟩, ⟨fun _ => below, fun _ => less⟩⟩
    · subst equal
      refine ⟨threshold, number_tenths_whole positive small, ?_, ?_⟩
      · exact ⟨fun less => absurd less (lt_irrefl _), fun less => absurd less (lt_irrefl _)⟩
      · exact ⟨fun less => absurd less (lt_irrefl _), fun less => absurd less (lt_irrefl _)⟩
    · obtain ⟨rounded, number, near⟩ := number_tenths valuePos bound
      have cast : (10 : ℚ) * threshold + 1 ≤ value := by exact_mod_cast above
      have greater : (threshold : ℚ) < rounded := by
        have error := (abs_lt.mp near).1
        linarith
      exact ⟨rounded, number, ⟨fun _ => above, fun _ => greater⟩,
        ⟨fun less => absurd less greater.not_gt, fun less => absurd less above.not_gt⟩⟩

theorem lt_tenths_iff (value threshold : ℕ) :
    (threshold : ℚ) < value / 10 ↔ 10 * threshold < value := by
  rw [lt_div_iff₀ (by norm_num), mul_comm]
  exact_mod_cast Iff.rfl

theorem tenths_lt_iff (value threshold : ℕ) :
    (value : ℚ) / 10 < threshold ↔ value < 10 * threshold := by
  rw [div_lt_iff₀ (by norm_num), mul_comm]
  exact_mod_cast Iff.rfl

theorem floatGreater_tenths {value threshold : ℕ} (bound : value ≤ 150000)
    (positive : 0 < threshold) (small : threshold < 2 ^ 24) :
    floatGreater (numeralBits (.tenths value)) threshold = true ↔
      (threshold : ℚ) < value / 10 := by
  obtain ⟨rounded, number, greater, -⟩ := compare_tenths bound positive small
  rw [floatGreater, number, decide_eq_true_iff, greater, lt_tenths_iff]

theorem floatLess_tenths {value threshold : ℕ} (bound : value ≤ 150000)
    (positive : 0 < threshold) (small : threshold < 2 ^ 24) :
    floatLess (numeralBits (.tenths value)) threshold = true ↔
      (value : ℚ) / 10 < threshold := by
  obtain ⟨rounded, number, -, less⟩ := compare_tenths bound positive small
  rw [floatLess, number, decide_eq_true_iff, less, tenths_lt_iff]

/-! ### The records of the sliders -/

/-- The settings of the GUI: the current in tenths of an ampere, the voltage in hundreds of volts
and the frequency in tenths of a hertz. -/
structure SliderSettings where
  trip : Bool
  close : Bool
  faultType : Fin 4
  current : Fin 50001
  voltage : Fin 151
  frequency : { tenths : ℕ // 450 ≤ tenths ∧ tenths ≤ 550 }

namespace SliderSettings

def amperes (settings : SliderSettings) : ℚ := settings.current / 10

def volts (settings : SliderSettings) : ℚ := settings.voltage * 100

def hertz (settings : SliderSettings) : ℚ := settings.frequency / 10

/-- The record the GUI writes for its settings. -/
def record (settings : SliderSettings) : GuiRecord where
  trip := settings.trip
  close := settings.close
  faultType := BitVec.ofNat 32 settings.faultType
  protElement := 50
  current := .tenths settings.current
  voltage := .tenths (1000 * settings.voltage)
  frequency := .tenths settings.frequency

/-- A record that has to open the breaker. -/
def Tripping (settings : SliderSettings) : Prop :=
  settings.trip = true ∨ 0 < settings.faultType ∨ 3500 < settings.amperes ∨
    settings.volts < 8000 ∨ 14000 < settings.volts ∨ settings.hertz < 49 ∨ 51 < settings.hertz

instance (settings : SliderSettings) : Decidable settings.Tripping :=
  inferInstanceAs (Decidable (_ ∨ _))

end SliderSettings

/-! ### The protection logic on them -/

/-- The logic trips when one of its conditions holds, whatever the later ones override. -/
theorem protectionTrip_detect (data : GuiData) :
    (Detection.detect data).protectionTrip = true ↔
      0 < data.faultType.toInt ∨ floatGreater data.current 3500 = true ∨
        floatLess data.voltage 8000 = true ∨ floatGreater data.voltage 14000 = true ∨
        floatLess data.freq 49 = true ∨ floatGreater data.freq 51 = true := by
  have overcurrent (self : Detection) : (self.overcurrent data).protectionTrip =
      (floatGreater data.current 3500 || self.protectionTrip) := by
    unfold Detection.overcurrent
    split <;> simp_all
  have voltage (self : Detection) : (self.voltage data).protectionTrip =
      (floatLess data.voltage 8000 || floatGreater data.voltage 14000 || self.protectionTrip) := by
    unfold Detection.voltage
    split <;> simp_all
  have frequency (self : Detection) : (self.frequency data).protectionTrip =
      (floatLess data.freq 49 || floatGreater data.freq 51 || self.protectionTrip) := by
    unfold Detection.frequency
    split <;> simp_all
  have manual (self : Detection) : (self.manual data).protectionTrip =
      (decide (0 < data.faultType.toInt) || self.protectionTrip) := by
    unfold Detection.manual
    split <;> simp_all
  rw [Detection.detect, manual, frequency, voltage, overcurrent, Detection.start]
  simp only [Bool.or_eq_true, decide_eq_true_iff, Bool.or_false]
  tauto

theorem tripCommand_protectionLogic (data : GuiData) :
    (protectionLogic data).dataset.tripCommand = true ↔
      data.trip ≠ 0 ∨ (Detection.detect data).protectionTrip = true := by
  unfold protectionLogic
  dsimp only
  split
  · next trips => simp [GuiData.dataset, trips]
  · next quiet => simp [GuiData.dataset, quiet]

theorem closeCommand_protectionLogic (data : GuiData) :
    (protectionLogic data).dataset.closeCommand = decide (data.close ≠ 0) := by
  unfold protectionLogic
  dsimp only
  split <;> rfl

/-- A turn that finds a complete record publishes what the logic makes of it. -/
theorem dataset_iterate_line (loop : PublishLoop) (now : ℕ) (record : GuiRecord) :
    (loop.iterate ⟨some record.line, now⟩).2.dataset = (protectionLogic record.data).dataset := by
  rw [← readGuiData_line]
  rfl

/-- The publisher trips exactly on the records that have to. -/
theorem tripCommand_record (settings : SliderSettings) :
    (protectionLogic settings.record.data).dataset.tripCommand = true ↔ settings.Tripping := by
  obtain ⟨trip, close, faultType, current, voltage, frequency⟩ := settings
  have currentBound : (current : ℕ) ≤ 150000 := by omega
  have voltageBound : 1000 * (voltage : ℕ) ≤ 150000 := by omega
  have frequencyBound : (frequency : ℕ) ≤ 150000 := frequency.property.2.trans (by decide)
  have flag : flagWord trip ≠ 0 ↔ trip = true := by cases trip <;> decide
  have fault : 0 < (BitVec.ofNat 32 (faultType : ℕ)).toInt ↔ 0 < faultType := by
    revert faultType
    decide
  have overcurrent := @floatGreater_tenths current 3500 currentBound (by decide) (by decide)
  have undervoltage := @floatLess_tenths (1000 * voltage) 8000 voltageBound (by decide) (by decide)
  have overvoltage :=
    @floatGreater_tenths (1000 * voltage) 14000 voltageBound (by decide) (by decide)
  have underfrequency := @floatLess_tenths frequency 49 frequencyBound (by decide) (by decide)
  have overfrequency := @floatGreater_tenths frequency 51 frequencyBound (by decide) (by decide)
  have volts : ((1000 * (voltage : ℕ) : ℕ) : ℚ) / 10 = (voltage : ℕ) * 100 := by
    push_cast
    ring
  rw [Nat.cast_ofNat] at overcurrent undervoltage overvoltage underfrequency overfrequency
  rw [volts] at undervoltage overvoltage
  rw [tripCommand_protectionLogic, protectionTrip_detect]
  simp only [SliderSettings.record, GuiRecord.data, SliderSettings.Tripping,
    SliderSettings.amperes, SliderSettings.volts, SliderSettings.hertz, flag, fault, overcurrent,
    undervoltage, overvoltage, underfrequency, overfrequency]

end Substation
