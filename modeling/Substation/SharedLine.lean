/-
This file is about the line that `writeSharedDataset` renders into a buffer of 128
characters. The number of digits of `%.1f` and `%.0f` grows with the exponent of the
value, and only a negative result of `snprintf` is looked at.

The main result says exactly for which finite values the line is whole, and with it
read by the breaker GUI as the values it was written from: those whose widths leave
room for the seven fields.
-/

import Substation.BreakerSystem
import Substation.Delivery

namespace Substation

open Decimal

/-! ### What a line has to say -/

/-- The three measurements are finite numbers. -/
def Dataset.Finite (dataset : Dataset) : Prop :=
  ∀ bits ∈ [dataset.faultCurrent, dataset.faultVoltage, dataset.frequency],
    Ieee.binary32.magnitude bits.toNat < Ieee.binary32.infinity

/-- A text denotes a `float` to within a tolerance. -/
def Denotes (field : Text) (bits : BitVec 32) (tolerance : ℚ) : Prop :=
  ∃ shown value, decimalOf field = some shown ∧
    Ieee.number Ieee.binary32 bits.toNat = .finite value ∧ |shown - value| ≤ tolerance

/-- The seven fields that the GUI finds denote the values. -/
structure Legible (dataset : Dataset) (fields : List Text) : Prop where
  seven : fields.length = 7
  trip : (fields[0]?.bind integerOf) = some (if dataset.tripCommand then 1 else 0)
  close : (fields[1]?.bind integerOf) = some (if dataset.closeCommand then 1 else 0)
  faultType : (fields[2]?.bind integerOf) = some dataset.faultType.toInt
  protElement : (fields[3]?.bind integerOf) = some dataset.protElement.toInt
  current : ∃ field, fields[4]? = some field ∧ Denotes field dataset.faultCurrent 0.05
  voltage : ∃ field, fields[5]? = some field ∧ Denotes field dataset.faultVoltage 0.5
  frequency : ∃ field, fields[6]? = some field ∧ Denotes field dataset.frequency 0.05

/-- The characters of the two integers and the three measurements. -/
def Dataset.width (dataset : Dataset) : ℕ :=
  integerWidth dataset.faultType.toInt + integerWidth dataset.protElement.toInt +
    fixedWidth Ieee.binary32 1 dataset.faultCurrent.toNat +
    fixedWidth Ieee.binary32 0 dataset.faultVoltage.toNat +
    fixedWidth Ieee.binary32 1 dataset.frequency.toNat

/-! ### The fields of a whole line -/

theorem denotes_printFixed {bits : BitVec 32} (decimals : ℕ)
    (finite : Ieee.binary32.magnitude bits.toNat < Ieee.binary32.infinity) {tolerance : ℚ}
    (half : 1 / 2 / 10 ^ decimals = tolerance) :
    Denotes (printFixed Ieee.binary32 decimals bits.toNat) bits tolerance := by
  have error := scaledValue_error Ieee.binary32 decimals bits.toNat
  rw [half] at error
  refine ⟨_, _, decimalOf_printFixed decimals finite,
    by rw [Ieee.number, if_neg finite.not_gt, if_neg finite.ne], ?_⟩
  cases Ieee.binary32.sign bits.toNat with
  | false => exact error
  | true =>
    rw [if_pos rfl, if_pos rfl, neg_sub_neg, abs_sub_comm]
    exact error

theorem legible_sharedFields {dataset : Dataset} (finite : dataset.Finite) :
    Legible dataset (sharedFields dataset) where
  seven := rfl
  trip := integerOf_printInteger _
  close := integerOf_printInteger _
  faultType := integerOf_printInteger _
  protElement := integerOf_printInteger _
  current := ⟨_, rfl, denotes_printFixed 1 (finite _ (by simp)) (by norm_num)⟩
  voltage := ⟨_, rfl, denotes_printFixed 0 (finite _ (by simp)) (by norm_num)⟩
  frequency := ⟨_, rfl, denotes_printFixed 1 (finite _ (by simp)) (by norm_num)⟩

/-- The length of the line as `snprintf` counts it. -/
theorem length_intercalate_sharedFields {dataset : Dataset} (finite : dataset.Finite) :
    ([','].intercalate (sharedFields dataset)).length = dataset.width + 8 := by
  have current := length_printFixed 1 (finite dataset.faultCurrent (by simp))
  have voltage := length_printFixed 0 (finite dataset.faultVoltage (by simp))
  have frequency := length_printFixed 1 (finite dataset.frequency (by simp))
  simp only [sharedFields, List.intercalate_cons_cons, List.intercalate_singleton,
    List.length_append, List.length_singleton, length_flagText, length_printInteger, current,
    voltage, frequency, Dataset.width]
  omega

/-! ### When the line is whole -/

/-- For every two booleans, every two 32-bit integers and every three finite `float` values: the
text in the file is the full rendering, and the fields the GUI splits it into are seven that denote
the values, if and only if the widths of the numbers are at most 119 together. -/
theorem line_is_whole_iff (dataset : Dataset) (finite : dataset.Finite) :
    sharedLine dataset = [','].intercalate (sharedFields dataset) ∧
        Legible dataset ((strip (sharedLine dataset)).splitOn ',') ↔
      dataset.width ≤ 119 := by
  have length := length_intercalate_sharedFields finite
  constructor
  · rintro ⟨whole, -⟩
    have cut : (sharedLine dataset).length ≤ 127 := List.length_take_le _ _
    rw [whole] at cut
    omega
  · intro narrow
    have whole : sharedLine dataset = [','].intercalate (sharedFields dataset) :=
      List.take_of_length_le (by omega)
    have fields : (strip (sharedLine dataset)).splitOn ',' = sharedFields dataset := by
      rw [strip_sharedLine, whole]
      exact List.splitOn_intercalate _ (comma_not_mem_sharedFields dataset) (by simp [sharedFields])
    exact ⟨whole, fields ▸ legible_sharedFields finite⟩

/-- The values of a normal message. -/
theorem usual_line_is_whole :
    let dataset : Dataset := ⟨true, false, 2, 27, 0x449c5000, 0x45dac000, 0x42473333⟩
    dataset.Finite ∧ dataset.width ≤ 119 ∧
      sharedLine dataset = "1,0,2,27,1250.5,7000,49.8".toList ∧
      Legible dataset ((strip (sharedLine dataset)).splitOn ',') := by
  intro dataset
  have finite : dataset.Finite := by
    simp only [Dataset.Finite, List.forall_mem_cons]
    exact ⟨by decide, by decide, by decide, List.forall_mem_nil _⟩
  have narrow : dataset.width ≤ 119 := by decide +kernel
  exact ⟨finite, narrow, by decide +kernel, ((line_is_whole_iff dataset finite).mpr narrow).2⟩

/-- A first message with the smallest integers and the largest negative measurements: the line
written has lost the end of the frequency. -/
theorem widest_line_is_cut :
    let dataset : Dataset :=
      ⟨true, true, 0x80000000, 0x80000000, 0xff7fffff, 0xff7fffff, 0xff7fffff⟩
    let message : Message := ⟨1, 0, 1000, dataset⟩
    dataset.Finite ∧
      (∃ after call, (SubscriberProgram.start [] none).step
          ⟨message.frame ⟨[2, 0, 0, 0, 0, 1], rfl⟩, 2000, 2000, false, false⟩ =
            some (after, some call) ∧
        call.dataset = some dataset ∧ after.file = some (sharedLine dataset)) ∧
      sharedLine dataset ≠ [','].intercalate (sharedFields dataset) ∧
      ¬ Legible dataset ((strip (sharedLine dataset)).splitOn ',') := by
  intro dataset message
  have finite : dataset.Finite := by
    simp only [Dataset.Finite, List.forall_mem_cons]
    exact ⟨by decide, by decide, by decide, List.forall_mem_nil _⟩
  have expecting : (SubscriberProgram.start [] none).subscriber.Expecting := .inl rfl
  obtain ⟨after, call, stepped, -, reads, written⟩ := @step_frame _ expecting message
    ⟨[2, 0, 0, 0, 0, 1], rfl⟩ ⟨message.frame _, 2000, 2000, false, false⟩ (.inl rfl)
  refine ⟨finite, ⟨after, call, stepped, reads.dataset, written⟩, by decide +kernel, ?_⟩
  have last : (writtenFields dataset)[6]? = some "-34028234663852".toList := by decide +kernel
  have cut : decimalOf "-34028234663852".toList = some (-34028234663852) := by decide +kernel
  have sent : Ieee.number Ieee.binary32 dataset.frequency.toNat =
      .finite (-340282346638528859811704183484516925440) := by decide +kernel
  rintro ⟨-, -, -, -, -, -, -, field, found, shown, value, denoted, number, near⟩
  rw [strip_sharedLine, splitOn_sharedLine, last, Option.some.injEq] at found
  rw [← found, cut, Option.some.injEq] at denoted
  rw [sent, Ieee.Number.finite.injEq] at number
  rw [← denoted, ← number] at near
  norm_num at near

end Substation
