/-
This file is the arithmetic of big-endian octet strings: the natural number and
the two's-complement integer an octet string denotes, the octet string of a
given width that denotes a number, and the two ways a 32-bit accumulator reads
one (shift and add, shift and or).

The redundant leading octets of a two's-complement string can be dropped
without changing the integer; `signed_cons_zero` and `signed_cons_ones` are the
two cases of that fact.
-/

import Mathlib

namespace Octets

/-! ### Numbers and their octets -/

/-- The natural number a big-endian octet string denotes. -/
def unsigned : List UInt8 → Nat
  | [] => 0
  | octet :: rest => octet.toNat * 256 ^ rest.length + unsigned rest

/-- The sign bit of a two's-complement octet string. The empty string is not negative. -/
def negative (octets : List UInt8) : Bool :=
  128 ≤ (octets.headD 0).toNat

/-- The integer a two's-complement octet string denotes. -/
def signed (octets : List UInt8) : Int :=
  unsigned octets - if negative octets then 256 ^ octets.length else 0

/-- The big-endian octets of a number, in the given width. -/
def ofNat : Nat → Nat → List UInt8
  | 0, _ => []
  | width + 1, value => UInt8.ofNat (value / 256 ^ width) :: ofNat width value

@[simp] theorem length_ofNat (width value : Nat) : (ofNat width value).length = width := by
  induction width with
  | zero => rfl
  | succ width inductionHypothesis => rw [ofNat, List.length_cons, inductionHypothesis]

theorem unsigned_lt (octets : List UInt8) : unsigned octets < 256 ^ octets.length := by
  induction octets with
  | nil => decide
  | cons octet rest inductionHypothesis =>
    have bound : octet.toNat < 256 := octet.toNat_lt
    calc octet.toNat * 256 ^ rest.length + unsigned rest
        < octet.toNat * 256 ^ rest.length + 256 ^ rest.length :=
          Nat.add_lt_add_left inductionHypothesis _
      _ = (octet.toNat + 1) * 256 ^ rest.length := by ring
      _ ≤ 256 * 256 ^ rest.length := Nat.mul_le_mul_right _ bound
      _ = 256 ^ (octet :: rest).length := by rw [List.length_cons, pow_succ, mul_comm]

theorem unsigned_ofNat (width value : Nat) : unsigned (ofNat width value) = value % 256 ^ width := by
  induction width with
  | zero => rw [ofNat, unsigned, pow_zero, Nat.mod_one]
  | succ width inductionHypothesis =>
    have octet : (UInt8.ofNat (value / 256 ^ width)).toNat = value / 256 ^ width % 256 :=
      UInt8.toNat_ofNat'
    rw [ofNat, unsigned, length_ofNat, inductionHypothesis, octet, pow_succ, Nat.mod_mul]
    ring

theorem unsigned_ofNat_of_lt {width value : Nat} (bound : value < 256 ^ width) :
    unsigned (ofNat width value) = value := by
  rw [unsigned_ofNat, Nat.mod_eq_of_lt bound]

theorem negative_cons (octet : UInt8) (rest : List UInt8) :
    negative (octet :: rest) = decide (128 ≤ octet.toNat) := rfl

/-! ### Redundant leading octets -/

theorem signed_of_not_negative {octets : List UInt8} (positive : negative octets = false) :
    signed octets = unsigned octets := by
  rw [signed, positive, if_neg Bool.false_ne_true, sub_zero]

/-- A leading zero octet in front of a string that is not negative is redundant. -/
theorem signed_cons_zero {octets : List UInt8} (positive : negative octets = false) :
    signed (0 :: octets) = signed octets := by
  rw [signed_of_not_negative positive, signed_of_not_negative rfl, unsigned]
  simp

/-- A leading octet of ones in front of a negative string is redundant. -/
theorem signed_cons_ones {octets : List UInt8} (negated : negative octets = true) :
    signed (0xff :: octets) = signed octets := by
  have ones : negative (0xff :: octets) = true := rfl
  rw [signed, signed, ones, negated, if_pos rfl, if_pos rfl, unsigned, List.length_cons, pow_succ]
  have octet : (0xff : UInt8).toNat = 255 := rfl
  rw [octet]
  push_cast
  ring

/-- The octets of a 32-bit word denote its two's-complement integer. -/
theorem signed_ofNat_toNat (word : BitVec 32) : signed (ofNat 4 word.toNat) = word.toInt := by
  have bound : word.toNat < 256 ^ 4 := word.isLt
  have lead : negative (ofNat 4 word.toNat) = decide (2 ^ 31 ≤ word.toNat) := by
    rw [ofNat, negative_cons, UInt8.toNat_ofNat']
    congr 1
    simp only [eq_iff_iff]
    omega
  rw [signed, lead, unsigned_ofNat_of_lt bound, length_ofNat, BitVec.toInt_eq_toNat_cond]
  by_cases small : word.toNat < 2 ^ 31
  · rw [if_neg (by simp only [decide_eq_true_eq]; omega), if_pos (by omega)]
    omega
  · rw [if_pos (by simp only [decide_eq_true_eq]; omega), if_neg (by omega)]
    norm_num

/-! ### Reading an octet string into a 32-bit accumulator -/

/-- One octet read by shifting and adding. -/
def shiftAdd (word : BitVec 32) (octet : UInt8) : BitVec 32 :=
  (word <<< 8) + BitVec.ofNat 32 octet.toNat

/-- One octet read by shifting and or-ing. -/
def shiftOr (word : BitVec 32) (octet : UInt8) : BitVec 32 :=
  (word <<< 8) ||| BitVec.ofNat 32 octet.toNat

theorem shiftOr_eq_shiftAdd (word : BitVec 32) (octet : UInt8) :
    shiftOr word octet = shiftAdd word octet := by
  have bound : octet.toNat < 2 ^ 8 := octet.toNat_lt
  refine (BitVec.add_eq_or_of_and_eq_zero _ _ ?_).symm
  -- The shifted word has no bit below the eighth, the octet none from the eighth on.
  refine BitVec.eq_of_getLsbD_eq fun index _ => ?_
  rw [BitVec.getLsbD_and, BitVec.getLsbD_shiftLeft, BitVec.getLsbD_ofNat, BitVec.getLsbD_zero]
  by_cases low : index < 8
  · simp [low]
  · have high : octet.toNat.testBit index = false :=
      Nat.testBit_lt_two_pow (lt_of_lt_of_le bound (Nat.pow_le_pow_right (by decide) (by omega)))
    simp [high]

theorem shiftAdd_eq (word : BitVec 32) (octet : UInt8) :
    shiftAdd word octet = word * 256 + BitVec.ofNat 32 octet.toNat := by
  rw [shiftAdd, BitVec.shiftLeft_eq_mul_twoPow]
  rfl

/-- Reading an octet string into an accumulator appends it to the accumulated number. -/
theorem foldl_shiftAdd (octets : List UInt8) (word : BitVec 32) :
    octets.foldl shiftAdd word =
      BitVec.ofInt 32 (word.toInt * 256 ^ octets.length + unsigned octets) := by
  induction octets generalizing word with
  | nil => simp [unsigned]
  | cons octet rest inductionHypothesis =>
    rw [List.foldl_cons, inductionHypothesis, shiftAdd_eq, unsigned, List.length_cons]
    have split : BitVec.ofInt 32 (word * 256 + BitVec.ofNat 32 octet.toNat).toInt =
        BitVec.ofInt 32 (word.toInt * 256 + octet.toNat) := by
      rw [BitVec.ofInt_toInt, BitVec.ofInt_add, BitVec.ofInt_mul, BitVec.ofInt_toInt,
        BitVec.ofInt_natCast]
      rfl
    rw [BitVec.ofInt_add, BitVec.ofInt_mul, split, ← BitVec.ofInt_mul, ← BitVec.ofInt_add]
    congr 1
    push_cast
    ring

/-- Reading from a zero accumulator gives the number modulo the word size. -/
theorem foldl_shiftAdd_zero (octets : List UInt8) :
    octets.foldl shiftAdd 0 = BitVec.ofNat 32 (unsigned octets) := by
  rw [foldl_shiftAdd]
  simp

/-- Reading from the sign-extended accumulator gives the two's-complement integer modulo the
word size. -/
theorem foldl_shiftOr_sign (octets : List UInt8) :
    octets.foldl shiftOr (if negative octets then BitVec.allOnes 32 else 0) =
      BitVec.ofInt 32 (signed octets) := by
  have same : shiftOr = shiftAdd := by
    funext word octet
    exact shiftOr_eq_shiftAdd word octet
  rw [same, foldl_shiftAdd, signed]
  cases negative octets with
  | false => simp
  | true =>
    have ones : (BitVec.allOnes 32).toInt = -1 := by decide
    rw [if_pos rfl, if_pos rfl, ones]
    congr 1
    ring

end Octets
