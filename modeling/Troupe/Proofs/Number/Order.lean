import Mathlib.Data.Rat.Floor
import Mathlib.Order.Monotone.Basic
import Troupe.Proofs.Number.Widening

/-!
# Floats in the order of their values

The magnitude bits of a format count its floats upwards from zero, and the next float lies
one unit in the last place above.  So floats are compared by their ranks as the numbers
that they stand for, and the integer part of a float is cut off from that number.
-/

namespace Troupe
namespace Number

/-!
## Magnitudes
-/

namespace BinaryFormat

variable (format : BinaryFormat)

theorem value_succ_of_room {magnitude : Nat}
    (hroom : format.fraction magnitude + 1 < 2 ^ format.fractionBits) :
    format.value (magnitude + 1) = format.value magnitude + 2 ^ format.exponent magnitude := by
  have hnext : magnitude + 1 = format.exponentField magnitude * 2 ^ format.fractionBits +
      (format.fraction magnitude + 1) :=
    congrArg (· + 1) (format.magnitude_split magnitude)
  have hfield : format.exponentField (magnitude + 1) = format.exponentField magnitude := by
    rw [hnext, exponentField_of_parts format _ hroom]
  have hfraction : format.fraction (magnitude + 1) = format.fraction magnitude + 1 := by
    rw [hnext, fraction_of_parts format _ hroom]
  have hsignificand : format.significand (magnitude + 1) = format.significand magnitude + 1 := by
    rw [significand, significand, hfield, hfraction]
    split
    · rfl
    · exact (Nat.add_assoc _ _ _).symm
  have hexponent : format.exponent (magnitude + 1) = format.exponent magnitude := by
    rw [exponent, exponent, hfield]
  rw [value, value, hsignificand, hexponent, Nat.cast_add, Nat.cast_one, add_mul, one_mul]

/-- The float after the last one of a binade is the first one of the next, whose significand
is half as large in units twice as large.  Above the subnormal floats the units stay. -/
theorem value_succ_of_full {magnitude : Nat}
    (hfull : format.fraction magnitude + 1 = 2 ^ format.fractionBits) :
    format.value (magnitude + 1) = format.value magnitude + 2 ^ format.exponent magnitude := by
  have hunit : 0 < 2 ^ format.fractionBits := Nat.two_pow_pos _
  have hnext : magnitude + 1 =
      (format.exponentField magnitude + 1) * 2 ^ format.fractionBits + 0 := by
    rw [Nat.add_zero, Nat.succ_mul, ← hfull, ← Nat.add_assoc]
    exact congrArg (· + 1) (by rw [hfull]; exact format.magnitude_split magnitude)
  have hfield : format.exponentField (magnitude + 1) = format.exponentField magnitude + 1 := by
    rw [hnext, exponentField_of_parts format _ hunit]
  have hfraction : format.fraction (magnitude + 1) = 0 := by
    rw [hnext, fraction_of_parts format _ hunit]
  have hsignificand : format.significand (magnitude + 1) = 2 ^ format.fractionBits := by
    rw [format.significand_of_normal (hfield ▸ Nat.succ_pos _), hfraction, Nat.add_zero]
  have hlast : (format.fraction magnitude : ℚ) + 1 = 2 ^ format.fractionBits := by
    exact_mod_cast hfull
  rcases Nat.eq_zero_or_pos (format.exponentField magnitude) with hzero | hpos
  · have hexponent : format.exponent (magnitude + 1) = format.exponent magnitude := by
      rw [exponent, exponent, hfield, hzero]
    rw [value, value, hsignificand, hexponent, format.significand_of_subnormal hzero,
      Nat.cast_pow, Nat.cast_ofNat, ← hlast, add_mul, one_mul]
  · have hexponent : format.exponent (magnitude + 1) = format.exponent magnitude + 1 := by
      rw [exponent, exponent, hfield]
      omega
    rw [value, value, hsignificand, hexponent, format.significand_of_normal hpos,
      zpow_add_one₀ (by norm_num)]
    push_cast
    rw [← hlast]
    ring

theorem value_succ (magnitude : Nat) :
    format.value (magnitude + 1) = format.value magnitude + 2 ^ format.exponent magnitude := by
  rcases Nat.lt_or_eq_of_le (format.fraction_lt magnitude) with hroom | hfull
  · exact format.value_succ_of_room hroom
  · exact format.value_succ_of_full hfull

theorem value_strictMono : StrictMono format.value := by
  apply strictMono_nat_of_lt_succ
  intro magnitude
  rw [value_succ]
  exact lt_add_of_pos_right _ (two_zpow_pos _)

theorem value_nonneg (magnitude : Nat) : 0 ≤ format.value magnitude := by
  rw [← format.value_zero]
  exact format.value_strictMono.monotone (Nat.zero_le magnitude)

end BinaryFormat

/-!
## Signed values
-/

def towardZero (q : ℚ) : Int :=
  if 0 ≤ q then ⌊q⌋ else ⌈q⌉

theorem towardZero_of_nonneg {q : ℚ} (hq : 0 ≤ q) : towardZero q = ⌊q⌋ := by
  rw [towardZero, if_pos hq]

theorem towardZero_neg {q : ℚ} (hq : 0 ≤ q) : towardZero (-q) = -⌊q⌋ := by
  rcases hq.eq_or_lt with hzero | hpos
  · rw [← hzero]
    rfl
  · rw [towardZero, if_neg (not_le_of_gt (neg_neg_of_pos hpos)), Int.ceil_neg]

theorem towardZero_bounds {q : ℚ} {a b : Int} (ha : a ≤ 0) (hb : 0 ≤ b) (hlow : (a : ℚ) ≤ q)
    (hhigh : q < b + 1) : a ≤ towardZero q ∧ towardZero q ≤ b := by
  unfold towardZero
  split
  next hq =>
    constructor
    · exact ha.trans (Int.floor_nonneg.mpr hq)
    · rw [← Int.lt_add_one_iff, Int.floor_lt]
      push_cast
      exact hhigh
  next hq =>
    have hneg : q ≤ 0 := (lt_of_not_ge hq).le
    constructor
    · exact_mod_cast hlow.trans (Int.le_ceil q)
    · exact (Int.ceil_nonpos.mpr hneg).trans hb

namespace Binary64

def value (x : Binary64) : ℚ :=
  if x.negative then -BinaryFormat.binary64.value x.magnitude
  else BinaryFormat.binary64.value x.magnitude

variable {x y : Binary64}

theorem isNaN_of_isFinite (h : x.isFinite = true) : x.isNaN = false := by
  rw [isFinite, decide_eq_true_eq] at h
  rw [isNaN, decide_eq_false_iff_not]
  exact Nat.not_lt_of_gt h

theorem value_of_negative (h : x.negative = true) :
    x.value = -BinaryFormat.binary64.value x.magnitude := by
  rw [value, if_pos h]

theorem value_of_not_negative (h : x.negative = false) :
    x.value = BinaryFormat.binary64.value x.magnitude := by
  rw [value, h, if_neg Bool.false_ne_true]

theorem value_magnitude_le_zero_iff (x : Binary64) :
    BinaryFormat.binary64.value x.magnitude ≤ 0 <-> x.magnitude = 0 := by
  rw [← BinaryFormat.value_zero, BinaryFormat.binary64.value_strictMono.le_iff_le,
    Nat.le_zero_eq]

theorem value_le_value_iff : x.value ≤ y.value <-> x.rank ≤ y.rank := by
  have hx := BinaryFormat.binary64.value_nonneg x.magnitude
  have hy := BinaryFormat.binary64.value_nonneg y.magnitude
  have hx0 := value_magnitude_le_zero_iff x
  have hy0 := value_magnitude_le_zero_iff y
  have hmono := BinaryFormat.binary64.value_strictMono
  rw [rank, rank]
  cases hnegative : x.negative <;> cases hnegative' : y.negative
  case false.false =>
    rw [value_of_not_negative hnegative, value_of_not_negative hnegative', hmono.le_iff_le]
    simp
  case false.true =>
    rw [value_of_not_negative hnegative, value_of_negative hnegative']
    constructor
    · intro h
      have hzero := hx0.mp (by linarith)
      have hzero' := hy0.mp (by linarith)
      simp [hzero, hzero']
    · intro h
      simp only [Bool.false_eq_true, if_false, if_true] at h
      have hzero := hx0.mpr (by omega)
      have hzero' := hy0.mpr (by omega)
      linarith
  case true.false =>
    rw [value_of_negative hnegative, value_of_not_negative hnegative']
    apply iff_of_true
    · linarith
    · simp only [if_true, Bool.false_eq_true, if_false]
      omega
  case true.true =>
    rw [value_of_negative hnegative, value_of_negative hnegative', neg_le_neg_iff,
      hmono.le_iff_le]
    simp

theorem value_lt_value_iff : x.value < y.value <-> x.rank < y.rank := by
  rw [← not_le, ← not_le, value_le_value_iff]

theorem atMost_iff (hx : x.isNaN = false) (hy : y.isNaN = false) :
    x.atMost y = true <-> x.value ≤ y.value := by
  rw [value_le_value_iff, atMost, hx, hy, Bool.not_false, Bool.true_and, Bool.true_and,
    decide_eq_true_eq]

theorem less_iff (hx : x.isNaN = false) (hy : y.isNaN = false) :
    x.less y = true <-> x.value < y.value := by
  rw [value_lt_value_iff, less, hx, hy, Bool.not_false, Bool.true_and, Bool.true_and,
    decide_eq_true_eq]

/-!
## Integer parts
-/

theorem truncate?_eq (h : x.isFinite = true) : x.truncate? = some (towardZero x.value) := by
  have hfloor : ⌊BinaryFormat.binary64.value x.magnitude⌋ =
      (((scaleBy x.significand 1 x.exponent).1 / (scaleBy x.significand 1 x.exponent).2 : Nat) :
        Int) := by
    have hquotient := scaleBy_quotient x.significand x.exponent Nat.one_pos
    rw [Nat.cast_one, div_one] at hquotient
    rw [BinaryFormat.value]
    rw [significand, exponent] at hquotient
    rw [← hquotient, Rat.floor_natCast_div_natCast]
    rfl
  have hnonneg := BinaryFormat.binary64.value_nonneg x.magnitude
  rw [truncate?, if_pos h]
  dsimp only
  rw [← hfloor]
  cases hnegative : x.negative with
  | false =>
      rw [value_of_not_negative hnegative, towardZero_of_nonneg hnonneg,
        if_neg Bool.false_ne_true]
  | true => rw [value_of_negative hnegative, towardZero_neg hnonneg, if_pos rfl]

theorem toInt_toInt64 (h : x.isFinite = true) (hlow : -2 ^ 63 ≤ x.value)
    (hhigh : x.value < 2 ^ 63) : x.toInt64.toInt = towardZero x.value := by
  have hbounds : Int64.minValue.toInt ≤ towardZero x.value ∧
      towardZero x.value ≤ Int64.maxValue.toInt := by
    apply towardZero_bounds (by decide) (by decide)
    · rw [Int64.toInt_minValue]
      exact_mod_cast hlow
    · rw [Int64.toInt_maxValue]
      push_cast
      linarith
  rw [toInt64, truncate?_eq h]
  exact Int64.toInt_ofIntClamp hbounds.left hbounds.right

theorem value_two_pow_63 : BinaryFormat.binary64.value 0x43e0000000000000 = 2 ^ 63 := by
  have hsignificand : BinaryFormat.binary64.significand 0x43e0000000000000 = 2 ^ 52 := by decide
  have hexponent : BinaryFormat.binary64.exponent 0x43e0000000000000 = 11 := by decide
  rw [BinaryFormat.value, hsignificand, hexponent]
  norm_num

theorem value_minValue : (ofInt Int64.minValue.toInt).value = -2 ^ 63 := by
  have hfloat : ofInt Int64.minValue.toInt = { bits := 0xc3e0000000000000 } := by decide
  rw [hfloat, value_of_negative rfl]
  exact congrArg Neg.neg value_two_pow_63

/-- The largest integer of 64 bits is no float, and the number after it is the nearest. -/
theorem value_maxValue : (ofInt Int64.maxValue.toInt).value = 2 ^ 63 := by
  have hfloat : ofInt Int64.maxValue.toInt = { bits := 0x43e0000000000000 } := by decide
  rw [hfloat, value_of_not_negative rfl]
  exact value_two_pow_63

end Binary64
end Number
end Troupe
