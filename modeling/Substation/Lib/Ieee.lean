/-
This file is the part of IEEE 754 binary arithmetic a program uses that only
stores, compares, converts and prints numbers: the value of a bit pattern, the
rounding of a rational to the nearest bit pattern (ties to even), and the
conversion between two formats.

A pattern is a sign and a magnitude. Read as a number, the magnitude of a
positive pattern counts the representable values from zero upwards, so the
rounding of `q` is `(e - emin) * 2 ^ p + n` where `n * 2 ^ e` is the nearest
multiple of the quantum `2 ^ e` that `q` has in the format: the carry of a
rounding up moves into the exponent field by itself. `magnitudeValue_round` is
that fact; the relative error of a rounding and the exactness of representable
values follow from it.
-/

import Mathlib

namespace Ieee

/-! ### Rounding to an integer -/

/-- The nearest integer, ties to even. -/
def roundEven (x : ℚ) : ℤ :=
  if x - ⌊x⌋ < 1 / 2 then ⌊x⌋
  else if 1 / 2 < x - ⌊x⌋ then ⌊x⌋ + 1
  else if ⌊x⌋ % 2 = 0 then ⌊x⌋ else ⌊x⌋ + 1

theorem roundEven_error (x : ℚ) : |(roundEven x : ℚ) - x| ≤ 1 / 2 := by
  have below : (⌊x⌋ : ℚ) ≤ x := Int.floor_le x
  have above : x < ⌊x⌋ + 1 := Int.lt_floor_add_one x
  unfold roundEven
  rw [abs_le]
  split_ifs <;> push_cast <;> constructor <;> linarith

@[simp] theorem roundEven_intCast (value : ℤ) : roundEven value = value := by
  unfold roundEven
  rw [Int.floor_intCast, sub_self, if_pos (by norm_num)]

theorem roundEven_natCast (value : ℕ) : roundEven value = value := by
  exact_mod_cast roundEven_intCast value

theorem le_roundEven {x : ℚ} {bound : ℤ} (le : (bound : ℚ) ≤ x) : bound ≤ roundEven x := by
  have floor : bound ≤ ⌊x⌋ := Int.le_floor.mpr le
  unfold roundEven
  split_ifs <;> omega

theorem roundEven_le {x : ℚ} {bound : ℤ} (lt : x < bound) : roundEven x ≤ bound := by
  have floor : ⌊x⌋ < bound := Int.floor_lt.mpr lt
  unfold roundEven
  split_ifs <;> omega

theorem roundEven_mono {x y : ℚ} (le : x ≤ y) : roundEven x ≤ roundEven y := by
  rcases (Int.floor_mono le).lt_or_eq with less | equal
  · have above : roundEven x ≤ ⌊x⌋ + 1 := by
      unfold roundEven
      split_ifs <;> omega
    have below : ⌊y⌋ ≤ roundEven y := le_roundEven (Int.floor_le y)
    omega
  · unfold roundEven
    rw [equal]
    split_ifs <;> first | omega | (exfalso; linarith)

theorem roundEven_nonneg {x : ℚ} (nonneg : 0 ≤ x) : 0 ≤ roundEven x :=
  le_roundEven (by exact_mod_cast nonneg)

/-! ### Formats and the values of bit patterns -/

/-- A binary interchange format: the widths of its fraction and exponent fields. -/
structure Format where
  fractionBits : ℕ
  exponentBits : ℕ
  fractionBits_pos : 0 < fractionBits
  two_le_exponentBits : 2 ≤ exponentBits

def binary32 : Format := ⟨23, 8, by decide, by decide⟩

def binary64 : Format := ⟨52, 11, by decide, by decide⟩

namespace Format

variable (format : Format)

/-- The exponent of the smallest quantum, that of the subnormal numbers. -/
def minExponent : ℤ := 2 - 2 ^ (format.exponentBits - 1) - format.fractionBits

/-- The number of magnitudes, and the weight of the sign bit. -/
def signWeight : ℕ := 2 ^ (format.exponentBits + format.fractionBits)

/-- The magnitude of infinity. The magnitudes above it are those of the NaNs. -/
def infinity : ℕ := (2 ^ format.exponentBits - 1) * 2 ^ format.fractionBits

def magnitude (bits : ℕ) : ℕ := bits % format.signWeight

def sign (bits : ℕ) : Bool := bits / format.signWeight % 2 = 1

def withSign (sign : Bool) (magnitude : ℕ) : ℕ :=
  (if sign then format.signWeight else 0) + magnitude

/-- The value of a finite magnitude. -/
def magnitudeValue (magnitude : ℕ) : ℚ :=
  if magnitude / 2 ^ format.fractionBits = 0 then
    (magnitude % 2 ^ format.fractionBits : ℕ) * (2 : ℚ) ^ format.minExponent
  else
    (2 ^ format.fractionBits + magnitude % 2 ^ format.fractionBits : ℕ) *
      (2 : ℚ) ^ (format.minExponent + (magnitude / 2 ^ format.fractionBits : ℕ) - 1)

/-- The exponent of the quantum a positive rational has in the format. -/
def quantumExponent (q : ℚ) : ℤ :=
  max (Int.log 2 q - format.fractionBits) format.minExponent

/-- The magnitude nearest to a rational that is not negative, ties to even; infinity when the
rational is too large. -/
def roundMagnitude (q : ℚ) : ℕ :=
  if q = 0 then 0
  else min format.infinity
    ((format.quantumExponent q - format.minExponent).toNat * 2 ^ format.fractionBits +
      (roundEven (q / (2 : ℚ) ^ format.quantumExponent q)).toNat)

end Format

/-- What a bit pattern denotes. Both zeros denote the rational `0`. -/
inductive Number
  | nan
  | infinite (negative : Bool)
  | finite (value : ℚ)
  deriving DecidableEq, Repr

/-- The number a bit pattern denotes. -/
def number (format : Format) (bits : ℕ) : Number :=
  if format.infinity < format.magnitude bits then .nan
  else if format.magnitude bits = format.infinity then .infinite (format.sign bits)
  else .finite (if format.sign bits then -format.magnitudeValue (format.magnitude bits)
    else format.magnitudeValue (format.magnitude bits))

/-- The bit pattern nearest to a signed rational magnitude. -/
def ofRat (format : Format) (negative : Bool) (q : ℚ) : ℕ :=
  format.withSign negative (format.roundMagnitude q)

/-- The fraction of a NaN in another format: aligned at the top, with the quiet bit set. -/
def quietFraction (source target : Format) (fraction : ℕ) : ℕ :=
  (fraction * 2 ^ target.fractionBits / 2 ^ source.fractionBits) ||| 2 ^ (target.fractionBits - 1)

/-- The conversion of a bit pattern to another format. -/
def convert (source target : Format) (bits : ℕ) : ℕ :=
  target.withSign (source.sign bits)
    (if source.infinity < source.magnitude bits then
      target.infinity + quietFraction source target (source.magnitude bits % 2 ^ source.fractionBits)
    else if source.magnitude bits = source.infinity then target.infinity
    else target.roundMagnitude (source.magnitudeValue (source.magnitude bits)))

/-! ### The value of a rounded magnitude -/

namespace Format

variable {format : Format}

/-- A magnitude whose integer significand lies in the normal range, or whose quantum is the
smallest one, denotes the significand times the quantum. -/
theorem magnitudeValue_grid {scale significand : ℕ}
    (normal : scale = 0 ∨ 2 ^ format.fractionBits ≤ significand)
    (small : significand ≤ 2 ^ (format.fractionBits + 1)) :
    format.magnitudeValue (scale * 2 ^ format.fractionBits + significand) =
      significand * (2 : ℚ) ^ (format.minExponent + scale) := by
  obtain ⟨unit, unit_eq⟩ : ∃ unit, unit = 2 ^ format.fractionBits := ⟨_, rfl⟩
  have positive : 0 < unit := unit_eq ▸ Nat.two_pow_pos _
  rw [pow_succ, ← unit_eq] at small
  rw [← unit_eq] at normal
  have quotient : (scale * unit + significand) / unit = scale + significand / unit := by
    rw [add_comm, Nat.add_mul_div_right _ _ positive, add_comm]
  have remainder : (scale * unit + significand) % unit = significand % unit := by
    rw [add_comm, Nat.add_mul_mod_self_right]
  unfold magnitudeValue
  rw [← unit_eq, quotient, remainder]
  -- The significand is subnormal, normal, or the carry of a rounding up.
  rcases Nat.lt_or_ge significand unit with subnormal | atLeast
  · have zero : scale = 0 := normal.resolve_right (by omega)
    rw [Nat.div_eq_of_lt subnormal, Nat.mod_eq_of_lt subnormal, zero, if_pos rfl]
    simp
  · rcases Nat.lt_or_ge significand (unit * 2) with below | carry
    · have one : significand / unit = 1 := Nat.div_eq_of_lt_le (by omega) (by omega)
      have rest : unit + significand % unit = significand := by
        have split := Nat.div_add_mod significand unit
        rw [one] at split
        omega
      rw [one, rest, if_neg (by omega)]
      congr 2
      push_cast
      ring
    · have top : significand = unit * 2 := le_antisymm small carry
      have two : significand / unit = 2 := by rw [top, Nat.mul_div_cancel_left _ positive]
      have rest : significand % unit = 0 := by rw [top, Nat.mul_mod_right]
      rw [two, rest, if_neg (by omega), top]
      have shift : format.minExponent + ((scale + 2 : ℕ) : ℤ) - 1 =
          format.minExponent + scale + 1 := by push_cast; ring
      rw [shift, zpow_add₀ two_ne_zero (format.minExponent + scale) 1]
      push_cast
      ring

/-- A rational has at most one bit more than the fraction in units of its quantum, -/
theorem significand_le {q : ℚ} (positive : 0 < q) :
    0 ≤ roundEven (q / (2 : ℚ) ^ format.quantumExponent q) ∧
      roundEven (q / (2 : ℚ) ^ format.quantumExponent q) ≤ 2 ^ (format.fractionBits + 1) := by
  obtain ⟨exponent, exponent_eq⟩ : ∃ exponent, exponent = format.quantumExponent q := ⟨_, rfl⟩
  have quantum : (0 : ℚ) < 2 ^ exponent := zpow_pos two_pos _
  have logLe : Int.log 2 q ≤ exponent + format.fractionBits := by
    have le : Int.log 2 q - format.fractionBits ≤ exponent := exponent_eq ▸ le_max_left _ _
    omega
  rw [← exponent_eq]
  refine ⟨roundEven_nonneg (by positivity), roundEven_le ?_⟩
  rw [div_lt_iff₀ quantum]
  calc q < (2 : ℚ) ^ (Int.log 2 q + 1) := by
        exact_mod_cast Int.lt_zpow_succ_log_self (by norm_num : 1 < 2) q
    _ ≤ (2 : ℚ) ^ ((format.fractionBits : ℤ) + 1 + exponent) :=
        zpow_le_zpow_right₀ (by norm_num) (by omega)
    _ = _ := by
        rw [zpow_add₀ two_ne_zero]
        push_cast
        norm_cast

/-- and above the smallest quantum no fewer bits than the fraction. -/
theorem le_significand {q : ℚ} (positive : 0 < q)
    (above : format.minExponent < format.quantumExponent q) :
    2 ^ format.fractionBits ≤ roundEven (q / (2 : ℚ) ^ format.quantumExponent q) := by
  obtain ⟨exponent, exponent_eq⟩ : ∃ exponent, exponent = format.quantumExponent q := ⟨_, rfl⟩
  have quantum : (0 : ℚ) < 2 ^ exponent := zpow_pos two_pos _
  -- The exponent is the rational's own.
  have own : Int.log 2 q = exponent + format.fractionBits := by
    have max_eq : exponent = Int.log 2 q - format.fractionBits ∨
        exponent = format.minExponent := exponent_eq ▸ max_choice _ _
    omega
  rw [← exponent_eq]
  refine le_roundEven ?_
  rw [le_div_iff₀ quantum]
  calc ((2 ^ format.fractionBits : ℤ) : ℚ) * 2 ^ exponent
      = (2 : ℚ) ^ Int.log 2 q := by
        rw [own, add_comm, zpow_add₀ two_ne_zero]
        push_cast
        norm_cast
    _ ≤ q := by exact_mod_cast Int.zpow_log_le_self (by norm_num : 1 < 2) positive

/-- A rational below the overflow bound rounds to a finite magnitude, and that magnitude denotes
the nearest multiple of the rational's quantum. -/
theorem magnitudeValue_round {q : ℚ} (positive : 0 < q)
    (bounded : Int.log 2 q + 4 ≤
      2 ^ format.exponentBits + format.minExponent + format.fractionBits) :
    format.roundMagnitude q < format.infinity ∧
      format.magnitudeValue (format.roundMagnitude q) =
        roundEven (q / (2 : ℚ) ^ format.quantumExponent q) *
          (2 : ℚ) ^ format.quantumExponent q := by
  obtain ⟨nonneg, le⟩ := @significand_le format q positive
  have atLeast := @le_significand format q positive
  obtain ⟨exponent, exponent_eq⟩ : ∃ exponent, exponent = format.quantumExponent q := ⟨_, rfl⟩
  rw [← exponent_eq] at nonneg le atLeast
  have minLe : format.minExponent ≤ exponent := exponent_eq ▸ le_max_right _ _
  obtain ⟨significand, significand_eq⟩ : ∃ significand : ℕ,
      roundEven (q / 2 ^ exponent) = significand := ⟨_, (Int.toNat_of_nonneg nonneg).symm⟩
  rw [significand_eq] at le atLeast
  have small : significand ≤ 2 ^ (format.fractionBits + 1) := by exact_mod_cast le
  obtain ⟨scale, scale_eq⟩ : ∃ scale : ℕ, exponent - format.minExponent = scale :=
    ⟨_, (Int.toNat_of_nonneg (by omega)).symm⟩
  have normal : scale = 0 ∨ 2 ^ format.fractionBits ≤ significand := by
    rcases Nat.eq_zero_or_pos scale with zero | above
    · exact Or.inl zero
    · exact Or.inr (by exact_mod_cast atLeast (by omega))
  have fits : scale * 2 ^ format.fractionBits + significand < format.infinity := by
    have four : 2 ^ 2 ≤ 2 ^ format.exponentBits :=
      Nat.pow_le_pow_right two_pos format.two_le_exponentBits
    have scaleLe : scale + 4 ≤ 2 ^ format.exponentBits := by
      have max_eq : exponent = Int.log 2 q - format.fractionBits ∨
          exponent = format.minExponent := exponent_eq ▸ max_choice _ _
      zify at four ⊢
      rcases max_eq with own | least <;> omega
    calc scale * 2 ^ format.fractionBits + significand
        ≤ scale * 2 ^ format.fractionBits + 2 ^ (format.fractionBits + 1) :=
          Nat.add_le_add_left small _
      _ = (scale + 2) * 2 ^ format.fractionBits := by ring
      _ < (2 ^ format.exponentBits - 1) * 2 ^ format.fractionBits :=
          Nat.mul_lt_mul_of_pos_right (by omega) (Nat.two_pow_pos _)
  have rounded : format.roundMagnitude q = scale * 2 ^ format.fractionBits + significand := by
    rw [roundMagnitude, if_neg positive.ne', ← exponent_eq, scale_eq, significand_eq,
      Int.toNat_natCast, Int.toNat_natCast, min_eq_right fits.le]
  rw [rounded, ← exponent_eq, significand_eq, magnitudeValue_grid normal small]
  refine ⟨fits, ?_⟩
  have exponentSplit : format.minExponent + scale = exponent := by omega
  rw [exponentSplit, Int.cast_natCast]

/-- In the normal range the relative error of a rounding is at most half a unit in the last
place. -/
theorem roundMagnitude_error {q : ℚ} (positive : 0 < q)
    (normal : format.minExponent + format.fractionBits ≤ Int.log 2 q)
    (bounded : Int.log 2 q + 4 ≤
      2 ^ format.exponentBits + format.minExponent + format.fractionBits) :
    |format.magnitudeValue (format.roundMagnitude q) - q| ≤
      q / 2 ^ (format.fractionBits + 1) := by
  rw [(magnitudeValue_round positive bounded).2]
  have exponent : format.quantumExponent q = Int.log 2 q - format.fractionBits :=
    max_eq_left (by omega)
  rw [exponent]
  obtain ⟨quantum, quantum_eq⟩ : ∃ quantum : ℚ,
      quantum = 2 ^ (Int.log 2 q - format.fractionBits) := ⟨_, rfl⟩
  have quantumPos : 0 < quantum := quantum_eq ▸ zpow_pos two_pos _
  have quantumLe : quantum * 2 ^ format.fractionBits ≤ q := by
    calc quantum * 2 ^ format.fractionBits = (2 : ℚ) ^ Int.log 2 q := by
          rw [quantum_eq, zpow_sub₀ two_ne_zero, zpow_natCast, div_mul_cancel₀]
          positivity
      _ ≤ q := by exact_mod_cast Int.zpow_log_le_self (by norm_num : 1 < 2) positive
  rw [← quantum_eq]
  have scaled : (roundEven (q / quantum) : ℚ) * quantum - q =
      (roundEven (q / quantum) - q / quantum) * quantum := by field_simp
  rw [scaled, abs_mul, abs_of_pos quantumPos]
  calc |(roundEven (q / quantum) : ℚ) - q / quantum| * quantum
      ≤ 1 / 2 * quantum := mul_le_mul_of_nonneg_right (roundEven_error _) quantumPos.le
    _ ≤ q / 2 ^ (format.fractionBits + 1) := by
        rw [le_div_iff₀ (by positivity), pow_succ]
        linarith

theorem mul_zpow_lt {significand width : ℕ} (short : significand < 2 ^ (width + 1))
    (exponent : ℤ) :
    (significand : ℚ) * 2 ^ exponent < ((2 : ℕ) : ℚ) ^ (exponent + width + 1) := by
  have split : exponent + width + 1 = ((width + 1 : ℕ) : ℤ) + exponent := by
    push_cast
    ring
  rw [split, Nat.cast_ofNat, zpow_add₀ two_ne_zero, zpow_natCast]
  exact mul_lt_mul_of_pos_right (by exact_mod_cast short) (zpow_pos two_pos _)

/-- A rational with a short significand and a quantum the format has is represented exactly. -/
theorem magnitudeValue_roundMagnitude_of_representable {significand : ℕ} {exponent : ℤ}
    (positive : 0 < significand) (short : significand < 2 ^ (format.fractionBits + 1))
    (minLe : format.minExponent ≤ exponent)
    (bounded : exponent + format.fractionBits + 4 ≤
      2 ^ format.exponentBits + format.minExponent + format.fractionBits) :
    format.roundMagnitude (significand * 2 ^ exponent) < format.infinity ∧
      format.magnitudeValue (format.roundMagnitude (significand * 2 ^ exponent)) =
        significand * 2 ^ exponent := by
  obtain ⟨q, q_eq⟩ : ∃ q : ℚ, q = significand * 2 ^ exponent := ⟨_, rfl⟩
  have qPos : 0 < q := by
    rw [q_eq]
    positivity
  have logLe : Int.log 2 q ≤ exponent + format.fractionBits := by
    refine Int.lt_add_one_iff.mp ((Int.lt_zpow_iff_log_lt (by norm_num : 1 < 2) qPos).mp ?_)
    rw [q_eq]
    exact mul_zpow_lt short exponent
  obtain ⟨fits, value⟩ := @magnitudeValue_round format _ qPos (by omega)
  rw [← q_eq]
  refine ⟨fits, value.trans ?_⟩
  have quantumLe : format.quantumExponent q ≤ exponent := max_le (by omega) minLe
  obtain ⟨shift, shift_eq⟩ : ∃ shift : ℕ, exponent - format.quantumExponent q = shift :=
    ⟨_, (Int.toNat_of_nonneg (by omega)).symm⟩
  have exponentSplit : exponent = shift + format.quantumExponent q := by omega
  have scaled : q = ((significand * 2 ^ shift : ℕ) : ℚ) * 2 ^ format.quantumExponent q := by
    calc q = significand * 2 ^ (shift + format.quantumExponent q) := by rw [← exponentSplit, q_eq]
      _ = _ := by
        rw [zpow_add₀ two_ne_zero, zpow_natCast]
        push_cast
        ring
  have integral : q / 2 ^ format.quantumExponent q = ((significand * 2 ^ shift : ℕ) : ℚ) :=
    (div_eq_iff (by positivity)).mpr scaled
  rw [integral, roundEven_natCast, Int.cast_natCast, ← scaled]

/-! ### Rounding a represented value returns its magnitude -/

/-- Every magnitude is a significand on a quantum of the format, the significand normal unless
the quantum is the smallest one. -/
theorem exists_grid_of_magnitude (format : Format) (magnitude : ℕ) :
    ∃ scale significand : ℕ, magnitude = scale * 2 ^ format.fractionBits + significand ∧
      significand < 2 ^ (format.fractionBits + 1) ∧
      (scale = 0 ∨ 2 ^ format.fractionBits ≤ significand) := by
  obtain ⟨unit, unit_eq⟩ : ∃ unit, unit = 2 ^ format.fractionBits := ⟨_, rfl⟩
  have unitPos : 0 < unit := unit_eq ▸ Nat.two_pow_pos _
  rw [pow_succ, ← unit_eq]
  have split := Nat.div_add_mod magnitude unit
  have rest := Nat.mod_lt magnitude unitPos
  rcases Nat.eq_zero_or_pos (magnitude / unit) with subnormal | normal
  · rw [subnormal] at split
    exact ⟨0, magnitude, by omega, by omega, Or.inl rfl⟩
  · refine ⟨magnitude / unit - 1, unit + magnitude % unit, ?_, by omega, Or.inr (by omega)⟩
    have shift : (magnitude / unit - 1) * unit + unit = magnitude / unit * unit := by
      rw [← Nat.succ_mul, Nat.succ_eq_add_one, Nat.sub_add_cancel normal]
    rw [← add_assoc, shift, mul_comm]
    exact split.symm

/-- A positive finite magnitude has a positive significand and an exponent the format has. -/
theorem exists_grid {magnitude : ℕ} (positive : 0 < magnitude)
    (finite : magnitude < format.infinity) :
    ∃ scale significand : ℕ, magnitude = scale * 2 ^ format.fractionBits + significand ∧
      0 < significand ∧ significand < 2 ^ (format.fractionBits + 1) ∧
      (scale = 0 ∨ 2 ^ format.fractionBits ≤ significand) ∧
      scale + 3 ≤ 2 ^ format.exponentBits := by
  obtain ⟨scale, significand, rfl, short, normal⟩ := format.exists_grid_of_magnitude magnitude
  have unitPos : 0 < 2 ^ format.fractionBits := Nat.two_pow_pos _
  have four : 2 ^ 2 ≤ 2 ^ format.exponentBits :=
    Nat.pow_le_pow_right two_pos format.two_le_exponentBits
  refine ⟨scale, significand, rfl, ?_, short, normal, ?_⟩
  · rcases normal with zero | atLeast
    · rw [zero] at positive
      omega
    · omega
  · rcases normal with zero | atLeast
    · omega
    · have below : (scale + 1) * 2 ^ format.fractionBits <
          (2 ^ format.exponentBits - 1) * 2 ^ format.fractionBits := by
        rw [infinity] at finite
        rw [add_mul, one_mul]
        omega
      have field := Nat.lt_of_mul_lt_mul_right below
      omega

/-- The quantum exponent of a significand on a quantum of the format is that of the quantum. -/
theorem quantumExponent_grid {scale significand : ℕ} (positive : 0 < significand)
    (short : significand < 2 ^ (format.fractionBits + 1))
    (normal : scale = 0 ∨ 2 ^ format.fractionBits ≤ significand) :
    format.quantumExponent (significand * (2 : ℚ) ^ (format.minExponent + scale)) =
      format.minExponent + scale := by
  obtain ⟨q, q_eq⟩ : ∃ q : ℚ, q = significand * 2 ^ (format.minExponent + scale) := ⟨_, rfl⟩
  have qPos : 0 < q := by
    rw [q_eq]
    positivity
  have above : Int.log 2 q < format.minExponent + scale + format.fractionBits + 1 := by
    refine (Int.lt_zpow_iff_log_lt (by norm_num : 1 < 2) qPos).mp ?_
    rw [q_eq]
    exact mul_zpow_lt short _
  rw [← q_eq, quantumExponent]
  rcases normal with zero | atLeast
  · rw [zero] at above ⊢
    rw [max_eq_right] <;> omega
  · have below : format.minExponent + scale + format.fractionBits ≤ Int.log 2 q := by
      refine (Int.zpow_le_iff_le_log (by norm_num : 1 < 2) qPos).mp ?_
      calc ((2 : ℕ) : ℚ) ^ (format.minExponent + scale + format.fractionBits)
          = 2 ^ format.fractionBits * 2 ^ (format.minExponent + scale) := by
            rw [Nat.cast_ofNat, zpow_add₀ two_ne_zero, zpow_natCast, mul_comm]
        _ ≤ q := by
            rw [q_eq]
            exact mul_le_mul_of_nonneg_right (by exact_mod_cast atLeast) (zpow_pos two_pos _).le
    rw [max_eq_left] <;> omega

/-- Rounding the value of a finite magnitude returns the magnitude. -/
theorem roundMagnitude_magnitudeValue {magnitude : ℕ} (finite : magnitude < format.infinity) :
    format.roundMagnitude (format.magnitudeValue magnitude) = magnitude := by
  rcases Nat.eq_zero_or_pos magnitude with zero | positive
  · rw [zero, roundMagnitude, if_pos]
    rw [magnitudeValue, Nat.zero_div, if_pos rfl, Nat.zero_mod, Nat.cast_zero, zero_mul]
  · obtain ⟨scale, significand, rfl, significandPos, short, normal, -⟩ := exists_grid positive finite
    rw [magnitudeValue_grid normal short.le]
    have quantum := quantumExponent_grid significandPos short normal
    have ne : (significand : ℚ) * 2 ^ (format.minExponent + scale) ≠ 0 := by positivity
    have scaleCast : format.minExponent + scale - format.minExponent = (scale : ℤ) := by ring
    rw [roundMagnitude, if_neg ne, quantum, mul_div_cancel_right₀ _ (by positivity),
      roundEven_natCast, Int.toNat_natCast, scaleCast, Int.toNat_natCast, min_eq_right finite.le]

/-- Finite values stay below the power of two after the largest exponent. -/
theorem magnitudeValue_lt {magnitude : ℕ} (finite : magnitude < format.infinity) :
    format.magnitudeValue magnitude <
      (2 : ℚ) ^ (format.minExponent + 2 ^ format.exponentBits + format.fractionBits - 2) := by
  rcases Nat.eq_zero_or_pos magnitude with zero | positive
  · rw [zero, magnitudeValue, Nat.zero_div, if_pos rfl, Nat.zero_mod, Nat.cast_zero, zero_mul]
    positivity
  · obtain ⟨scale, significand, rfl, -, short, normal, scaleLe⟩ := exists_grid positive finite
    rw [magnitudeValue_grid normal short.le]
    refine lt_of_lt_of_le (mul_zpow_lt short _) ?_
    rw [Nat.cast_ofNat]
    refine zpow_le_zpow_right₀ one_le_two ?_
    zify at scaleLe
    omega

/-! ### Rounding keeps the order -/

theorem magnitudeValue_nonneg (format : Format) (magnitude : ℕ) :
    0 ≤ format.magnitudeValue magnitude := by
  unfold magnitudeValue
  split <;> positivity

theorem magnitudeValue_mono {first second : ℕ} (le : first ≤ second) :
    format.magnitudeValue first ≤ format.magnitudeValue second := by
  refine monotone_nat_of_le_succ (fun magnitude => ?_) le
  -- The next magnitude is the next significand on the same quantum.
  obtain ⟨scale, significand, rfl, short, normal⟩ := format.exists_grid_of_magnitude magnitude
  rw [add_assoc, magnitudeValue_grid normal short.le,
    magnitudeValue_grid (normal.imp_right (le_trans · (Nat.le_succ _))) short]
  exact mul_le_mul_of_nonneg_right (by exact_mod_cast Nat.le_succ _) (zpow_pos two_pos _).le

theorem quantumExponent_mono {q r : ℚ} (positive : 0 < q) (le : q ≤ r) :
    format.quantumExponent q ≤ format.quantumExponent r :=
  max_le_max_right _ (Int.sub_le_sub_right (Int.log_mono_right positive le) _)

theorem roundMagnitude_mono {q r : ℚ} (nonneg : 0 ≤ q) (le : q ≤ r) :
    format.roundMagnitude q ≤ format.roundMagnitude r := by
  rcases nonneg.eq_or_lt with zero | positive
  · rw [← zero, roundMagnitude, if_pos rfl]
    exact Nat.zero_le _
  · have exponents := @quantumExponent_mono format q r positive le
    have minLe : format.minExponent ≤ format.quantumExponent q := le_max_right _ _
    have upper := (@significand_le format q positive).2
    have lower := @le_significand format r (positive.trans_le le)
    rw [roundMagnitude, roundMagnitude, if_neg positive.ne', if_neg (positive.trans_le le).ne']
    refine min_le_min_left _ ?_
    rcases exponents.eq_or_lt with same | less
    · rw [← same]
      refine Nat.add_le_add_left (Int.toNat_le_toNat (roundEven_mono ?_)) _
      exact div_le_div_of_nonneg_right le (zpow_pos two_pos _).le
    · -- A rational on a larger quantum is above everything on a smaller one.
      have short : (roundEven (q / (2 : ℚ) ^ format.quantumExponent q)).toNat ≤
          2 ^ (format.fractionBits + 1) := by
        exact Int.toNat_le.mpr (by exact_mod_cast upper)
      have long : 2 ^ format.fractionBits ≤
          (roundEven (r / (2 : ℚ) ^ format.quantumExponent r)).toNat :=
        (Int.le_toNat (@significand_le format r (positive.trans_le le)).1).mpr
          (by exact_mod_cast lower (by omega))
      have scales : (format.quantumExponent q - format.minExponent).toNat + 1 ≤
          (format.quantumExponent r - format.minExponent).toNat := by omega
      calc _ ≤ (format.quantumExponent q - format.minExponent).toNat * 2 ^ format.fractionBits +
            2 ^ (format.fractionBits + 1) := Nat.add_le_add_left short _
        _ = ((format.quantumExponent q - format.minExponent).toNat + 1) *
            2 ^ format.fractionBits + 2 ^ format.fractionBits := by ring
        _ ≤ _ := Nat.add_le_add (Nat.mul_le_mul_right _ scales) long

theorem roundMagnitude_le_infinity (q : ℚ) : format.roundMagnitude q ≤ format.infinity := by
  unfold roundMagnitude
  split
  · exact Nat.zero_le _
  · exact min_le_left _ _

theorem infinity_lt_signWeight : format.infinity < format.signWeight := by
  have fields : 1 ≤ 2 ^ format.exponentBits := Nat.one_le_two_pow
  rw [infinity, signWeight, pow_add]
  exact Nat.mul_lt_mul_of_pos_right (by omega) (Nat.two_pow_pos _)

theorem magnitude_withSign (sign : Bool) {magnitude : ℕ} (bound : magnitude < format.signWeight) :
    format.magnitude (format.withSign sign magnitude) = magnitude := by
  cases sign <;> simp [Format.magnitude, withSign, Nat.mod_eq_of_lt bound]

theorem sign_withSign (sign : Bool) {magnitude : ℕ} (bound : magnitude < format.signWeight) :
    format.sign (format.withSign sign magnitude) = sign := by
  have positive : 0 < format.signWeight := Nat.two_pow_pos _
  cases sign
  · simp [Format.sign, withSign, Nat.div_eq_of_lt bound]
  · simp [Format.sign, withSign, Nat.add_div_left _ positive, Nat.div_eq_of_lt bound]

theorem withSign_sign_magnitude {bits : ℕ} (bound : bits < 2 * format.signWeight) :
    format.withSign (format.sign bits) (format.magnitude bits) = bits := by
  have split := Nat.div_add_mod bits format.signWeight
  have quotient : bits / format.signWeight < 2 := Nat.div_lt_of_lt_mul (by rwa [mul_comm])
  unfold withSign Format.sign Format.magnitude
  rcases Nat.le_one_iff_eq_zero_or_eq_one.mp (Nat.le_of_lt_succ quotient) with zero | one
  · rw [zero] at split ⊢
    simpa using split
  · rw [one] at split ⊢
    simpa using split

end Format

/-! ### Widening and narrowing -/

/-- The conversion of a single-precision pattern to double precision. -/
def widen (bits : BitVec 32) : BitVec 64 :=
  BitVec.ofNat 64 (convert binary32 binary64 bits.toNat)

/-- The conversion of a double-precision pattern to single precision. -/
def narrow (bits : BitVec 64) : BitVec 32 :=
  BitVec.ofNat 32 (convert binary64 binary32 bits.toNat)

/-- A pattern is a NaN when its magnitude lies above that of infinity. -/
def IsNan (format : Format) (bits : ℕ) : Prop := format.infinity < format.magnitude bits

instance (format : Format) (bits : ℕ) : Decidable (IsNan format bits) :=
  inferInstanceAs (Decidable (_ < _))

theorem quietFraction_bounds (source target : Format) {fraction : ℕ}
    (bound : fraction < 2 ^ source.fractionBits) :
    0 < quietFraction source target fraction ∧
      quietFraction source target fraction < 2 ^ target.fractionBits := by
  have scaled : fraction * 2 ^ target.fractionBits / 2 ^ source.fractionBits <
      2 ^ target.fractionBits :=
    Nat.div_lt_of_lt_mul (Nat.mul_lt_mul_of_pos_right bound (Nat.two_pow_pos _))
  have quiet : 2 ^ (target.fractionBits - 1) < 2 ^ target.fractionBits :=
    Nat.pow_lt_pow_right one_lt_two (Nat.sub_lt target.fractionBits_pos one_pos)
  exact ⟨lt_of_lt_of_le (Nat.two_pow_pos _) Nat.right_le_or, Nat.or_lt_two_pow scaled quiet⟩

/-- A converted magnitude fits beside the sign, so the conversion keeps the sign. -/
theorem convert_fields (source target : Format) (bits : ℕ) :
    target.sign (convert source target bits) = source.sign bits ∧
      target.magnitude (convert source target bits) =
        if source.infinity < source.magnitude bits then
          target.infinity +
            quietFraction source target (source.magnitude bits % 2 ^ source.fractionBits)
        else if source.magnitude bits = source.infinity then target.infinity
        else target.roundMagnitude (source.magnitudeValue (source.magnitude bits)) := by
  have quiet := quietFraction_bounds source target
    (Nat.mod_lt (source.magnitude bits) (Nat.two_pow_pos source.fractionBits))
  have room : target.infinity + 2 ^ target.fractionBits = target.signWeight := by
    have fields : 1 ≤ 2 ^ target.exponentBits := Nat.one_le_two_pow
    rw [Format.infinity, Format.signWeight, pow_add, ← Nat.succ_mul, Nat.succ_eq_add_one,
      Nat.sub_add_cancel fields]
  have rounded := @Format.roundMagnitude_le_infinity target
    (source.magnitudeValue (source.magnitude bits))
  have finite := @Format.infinity_lt_signWeight target
  rw [convert]
  split_ifs
  · exact ⟨Format.sign_withSign _ (by omega), Format.magnitude_withSign _ (by omega)⟩
  · exact ⟨Format.sign_withSign _ finite, Format.magnitude_withSign _ finite⟩
  · exact ⟨Format.sign_withSign _ (by omega), Format.magnitude_withSign _ (by omega)⟩

theorem withSign_lt {format : Format} (sign : Bool) {magnitude : ℕ}
    (bound : magnitude < format.signWeight) :
    format.withSign sign magnitude < 2 * format.signWeight := by
  cases sign <;> simp only [Format.withSign, if_true, Bool.false_eq_true, if_false] <;> omega

theorem convert_lt (source target : Format) (bits : ℕ) :
    convert source target bits < 2 * target.signWeight := by
  have magnitude := (convert_fields source target bits).2
  have bound := Nat.mod_lt (convert source target bits) (Nat.two_pow_pos _ : 0 < target.signWeight)
  rw [convert] at magnitude ⊢
  refine withSign_lt _ ?_
  rw [← magnitude]
  exact Nat.mod_lt _ (Nat.two_pow_pos _)

theorem toNat_widen (bits : BitVec 32) :
    (widen bits).toNat = convert binary32 binary64 bits.toNat := by
  rw [widen, BitVec.toNat_ofNat]
  exact Nat.mod_eq_of_lt (convert_lt binary32 binary64 bits.toNat)

theorem toNat_narrow (bits : BitVec 64) :
    (narrow bits).toNat = convert binary64 binary32 bits.toNat := by
  rw [narrow, BitVec.toNat_ofNat]
  exact Nat.mod_eq_of_lt (convert_lt binary64 binary32 bits.toNat)

/-- Widening a finite pattern keeps its value. -/
theorem widen_magnitudeValue {magnitude : ℕ} (finite : magnitude < binary32.infinity) :
    binary64.roundMagnitude (binary32.magnitudeValue magnitude) < binary64.infinity ∧
      binary64.magnitudeValue (binary64.roundMagnitude (binary32.magnitudeValue magnitude)) =
        binary32.magnitudeValue magnitude := by
  rcases Nat.eq_zero_or_pos magnitude with zero | positive
  · subst zero
    decide +kernel
  · obtain ⟨scale, significand, rfl, significandPos, short, normal, scaleLe⟩ :=
      Format.exists_grid positive finite
    rw [Format.magnitudeValue_grid normal short.le]
    have wide : significand < 2 ^ (binary64.fractionBits + 1) :=
      lt_trans short (by decide)
    have exponents : binary32.minExponent = -149 ∧ binary64.minExponent = -1074 := by decide
    have scaleSmall : scale + 3 ≤ 256 := scaleLe
    have fraction : binary64.fractionBits = 52 := rfl
    have exponentBits : binary64.exponentBits = 11 := rfl
    refine Format.magnitudeValue_roundMagnitude_of_representable significandPos wide ?_ ?_
    · omega
    · rw [fraction, exponentBits]
      omega

/-- Narrowing undoes widening, except that a NaN is made quiet. -/
theorem narrow_widen {bits : BitVec 32} (number : ¬ IsNan binary32 bits.toNat) :
    narrow (widen bits) = bits := by
  refine BitVec.eq_of_toNat_eq ?_
  obtain ⟨sign, magnitude⟩ := convert_fields binary32 binary64 bits.toNat
  have inRange : bits.toNat < 2 * binary32.signWeight := bits.isLt
  rw [IsNan] at number
  rw [if_neg number] at magnitude
  rw [toNat_narrow, toNat_widen, convert, sign, magnitude]
  rcases eq_or_lt_of_le (not_lt.mp number) with infinite | finite
  · rw [if_pos infinite, if_neg (lt_irrefl _), if_pos rfl, ← infinite]
    exact Format.withSign_sign_magnitude inRange
  · obtain ⟨below, value⟩ := widen_magnitudeValue finite
    rw [if_neg finite.ne, if_neg below.not_gt, if_neg below.ne, value,
      Format.roundMagnitude_magnitudeValue finite]
    exact Format.withSign_sign_magnitude inRange

theorem isNan_narrow_widen {bits : BitVec 32} (nan : IsNan binary32 bits.toNat) :
    IsNan binary32 (narrow (widen bits)).toNat := by
  rw [IsNan] at nan
  have wide : binary64.infinity < binary64.magnitude (convert binary32 binary64 bits.toNat) := by
    rw [(convert_fields binary32 binary64 bits.toNat).2, if_pos nan]
    exact Nat.lt_add_of_pos_right (quietFraction_bounds _ _ (Nat.mod_lt _ (Nat.two_pow_pos _))).1
  rw [IsNan, toNat_narrow, toNat_widen, (convert_fields binary64 binary32 _).2, if_pos wide]
  exact Nat.lt_add_of_pos_right (quietFraction_bounds _ _ (Nat.mod_lt _ (Nat.two_pow_pos _))).1

theorem sign_narrow_widen (bits : BitVec 32) :
    binary32.sign (narrow (widen bits)).toNat = binary32.sign bits.toNat := by
  rw [toNat_narrow, toNat_widen, (convert_fields binary64 binary32 _).1,
    (convert_fields binary32 binary64 _).1]

end Ieee
