import Mathlib.Algebra.Order.Field.Basic
import Mathlib.Algebra.Order.Field.Power
import Mathlib.Data.Rat.Cast.Order
import Mathlib.Tactic.FieldSimp
import Mathlib.Tactic.Linarith
import Mathlib.Tactic.Ring
import Troupe.Number.Binary64

/-!
# Rounding to the nearest float

`BinaryFormat.nearest` works on quotients of natural numbers; here quotients are
rationals and a float has the value `significand * 2 ^ exponent`.  The main
statement is `nearest_eq_of_near`: a quotient in the rounding interval of a
finite float rounds to that float.
-/

namespace Troupe
namespace Number

/-!
## Quotients
-/

theorem scaleBy_den_pos (num : Nat) {den : Nat} (power : Int) (hden : 0 < den) :
    0 < (scaleBy num den power).2 := by
  unfold scaleBy
  split
  · exact hden
  · exact Nat.mul_pos hden (Nat.two_pow_pos _)

theorem scaleBy_quotient (num : Nat) {den : Nat} (power : Int) (hden : 0 < den) :
    ((scaleBy num den power).1 : ℚ) / (scaleBy num den power).2 =
      (num : ℚ) / den * 2 ^ power := by
  have hden' : (den : ℚ) ≠ 0 := Nat.cast_ne_zero.mpr hden.ne'
  unfold scaleBy
  split
  next hpower =>
    obtain ⟨k, rfl⟩ := Int.eq_ofNat_of_zero_le hpower
    simp only [Int.toNat_natCast, Nat.pow_eq, Nat.cast_mul, Nat.cast_pow, Nat.cast_ofNat,
      zpow_natCast]
    ring
  next hpower =>
    obtain ⟨k, hk⟩ := Int.eq_ofNat_of_zero_le (show 0 ≤ -power by omega)
    have hpower' : power = -(k : Int) := by omega
    subst hpower'
    simp only [neg_neg, Int.toNat_natCast, Nat.pow_eq, Nat.cast_mul, Nat.cast_pow,
      Nat.cast_ofNat, zpow_neg, zpow_natCast]
    field_simp

theorem two_zpow_pos (e : Int) : (0 : ℚ) < 2 ^ e :=
  zpow_pos (by norm_num) e

theorem two_zpow_add (a b : Int) : (2 : ℚ) ^ (a + b) = 2 ^ a * 2 ^ b :=
  zpow_add₀ (by norm_num) a b

theorem two_zpow_log2_le {n : Nat} (hn : 0 < n) : (2 : ℚ) ^ (n.log2 : Int) ≤ n := by
  rw [zpow_natCast]
  exact_mod_cast Nat.log2_self_le hn.ne'

theorem lt_two_zpow_log2 (n : Nat) : (n : ℚ) < 2 ^ ((n.log2 : Int) + 1) := by
  have hlog : n < 2 ^ (n.log2 + 1) := Nat.lt_log2_self
  have hcast : ((n.log2 : Int) + 1) = ((n.log2 + 1 : Nat) : Int) := by omega
  rw [hcast, zpow_natCast]
  exact_mod_cast hlog

theorem binade_le_and_lt {num den : Nat} (hnum : 0 < num) (hden : 0 < den) :
    (2 : ℚ) ^ binade num den ≤ (num : ℚ) / den ∧
      (num : ℚ) / den < 2 ^ (binade num den + 1) := by
  have hden' : (0 : ℚ) < den := Nat.cast_pos.mpr hden
  have hunit : (0 : ℚ) < (scaleBy num den (-((num.log2 : Int) - den.log2))).2 :=
    Nat.cast_pos.mpr (scaleBy_den_pos num _ hden)
  have hscaled := scaleBy_quotient num (-((num.log2 : Int) - den.log2)) hden
  generalize hguess : (num.log2 : Int) - den.log2 = guess at hunit hscaled
  have hhigh : (num : ℚ) / den < 2 ^ (guess + 1) := by
    rw [div_lt_iff₀ hden']
    calc (num : ℚ) < 2 ^ ((num.log2 : Int) + 1) := lt_two_zpow_log2 num
      _ = 2 ^ (guess + 1) * 2 ^ (den.log2 : Int) := by
          rw [← two_zpow_add]
          congr 1
          omega
      _ ≤ 2 ^ (guess + 1) * den :=
          mul_le_mul_of_nonneg_left (two_zpow_log2_le hden) (two_zpow_pos _).le
  have hlow : (2 : ℚ) ^ (guess - 1) ≤ (num : ℚ) / den := by
    rw [le_div_iff₀ hden']
    calc (2 : ℚ) ^ (guess - 1) * den
        ≤ 2 ^ (guess - 1) * 2 ^ ((den.log2 : Int) + 1) :=
          mul_le_mul_of_nonneg_left (lt_two_zpow_log2 den).le (two_zpow_pos _).le
      _ = 2 ^ (num.log2 : Int) := by
          rw [← two_zpow_add]
          congr 1
          omega
      _ ≤ num := two_zpow_log2_le hnum
  have hone : (scaleBy num den (-guess)).2 ≤ (scaleBy num den (-guess)).1 <->
      (2 : ℚ) ^ guess ≤ (num : ℚ) / den := by
    rw [← Nat.cast_le (α := ℚ), ← one_le_div hunit, hscaled, zpow_neg,
      ← div_eq_mul_inv, one_le_div (two_zpow_pos _)]
  have hbinade : binade num den =
      if (scaleBy num den (-guess)).2 ≤ (scaleBy num den (-guess)).1 then guess
      else guess - 1 := by
    rw [binade, hguess]
  rw [hbinade]
  split
  next hle => exact ⟨hone.mp hle, hhigh⟩
  next hgt =>
    refine ⟨hlow, ?_⟩
    rw [sub_add_cancel]
    exact lt_of_not_ge (fun hge => hgt (hone.mpr hge))

theorem binade_eq {num den : Nat} {b : Int} (hnum : 0 < num) (hden : 0 < den)
    (hlow : (2 : ℚ) ^ b ≤ (num : ℚ) / den) (hhigh : (num : ℚ) / den < 2 ^ (b + 1)) :
    binade num den = b := by
  rcases binade_le_and_lt hnum hden with ⟨hlow', hhigh'⟩
  have h1 : b < binade num den + 1 :=
    (zpow_lt_zpow_iff_right₀ (by norm_num : (1 : ℚ) < 2)).mp (hlow.trans_lt hhigh')
  have h2 : binade num den < b + 1 :=
    (zpow_lt_zpow_iff_right₀ (by norm_num : (1 : ℚ) < 2)).mp (hlow'.trans_lt hhigh)
  omega

theorem binade_lt {num den : Nat} {b : Int} (hnum : 0 < num) (hden : 0 < den)
    (hhigh : (num : ℚ) / den < 2 ^ b) : binade num den < b :=
  (zpow_lt_zpow_iff_right₀ (by norm_num : (1 : ℚ) < 2)).mp
    ((binade_le_and_lt hnum hden).left.trans_lt hhigh)

/-!
## Nearest integers

`Near closed m v` says that `v` is no further than one half from `m`; unless the
interval is closed, one half is too far.
-/

def Near (closed : Prop) (m : Nat) (v : ℚ) : Prop :=
  (m - 1 / 2 ≤ v ∧ v ≤ m + 1 / 2) ∧ (closed ∨ (m - 1 / 2 < v ∧ v < m + 1 / 2))

theorem divNearest_eq {num den m : Nat} (hden : 0 < den)
    (h : Near (m % 2 = 0) m ((num : ℚ) / den)) : divNearest num den = m := by
  have hden' : (0 : ℚ) < den := Nat.cast_pos.mpr hden
  rcases h with ⟨⟨hlow, hhigh⟩, htie⟩
  have hlowNat : 2 * (m * den) ≤ 2 * num + den := by
    rw [le_div_iff₀ hden'] at hlow
    have : (2 * (m * den) : ℚ) ≤ 2 * num + den := by linarith
    exact_mod_cast this
  have hhighNat : 2 * num ≤ 2 * (m * den) + den := by
    rw [div_le_iff₀ hden'] at hhigh
    have : (2 * num : ℚ) ≤ 2 * (m * den) + den := by linarith
    exact_mod_cast this
  have htieNat : m % 2 = 0 ∨ (2 * (m * den) < 2 * num + den ∧ 2 * num < 2 * (m * den) + den) := by
    rcases htie with heven | ⟨hlow', hhigh'⟩
    · exact Or.inl heven
    · rw [lt_div_iff₀ hden'] at hlow'
      rw [div_lt_iff₀ hden'] at hhigh'
      have h1 : (2 * (m * den) : ℚ) < 2 * num + den := by linarith
      have h2 : (2 * num : ℚ) < 2 * (m * den) + den := by linarith
      exact Or.inr ⟨by exact_mod_cast h1, by exact_mod_cast h2⟩
  have hsplit : num = den * (num / den) + num % den := (Nat.div_add_mod num den).symm
  have hrest : num % den < den := Nat.mod_lt _ hden
  have hle : num / den ≤ m := by
    by_contra hgt
    have hmul : den * (m + 1) ≤ den * (num / den) := Nat.mul_le_mul_left den (by omega)
    rw [Nat.mul_add, Nat.mul_comm den m] at hmul
    omega
  have hge : m ≤ num / den + 1 := by
    by_contra hlt
    have hmul : den * (num / den + 2) ≤ den * m := Nat.mul_le_mul_left den (by omega)
    rw [Nat.mul_add, Nat.mul_comm den m] at hmul
    omega
  -- the quotient is cut off at `m` or just below it
  have hcases : num / den = m ∨ num / den + 1 = m := by omega
  unfold divNearest
  rcases hcases with hm | hm
  · rw [hm, Nat.mul_comm den m] at hsplit
    rw [hm]
    dsimp only
    split
    · rfl
    · split
      · omega
      · split
        · rfl
        · omega
  · have hmul : m * den = den * (num / den) + den := by
      rw [← hm, Nat.add_mul, Nat.one_mul, Nat.mul_comm]
    dsimp only
    split
    · omega
    · split
      · exact hm
      · split
        · omega
        · exact hm

theorem divNearest_le {num den m : Nat} (h : num < m * den) : divNearest num den ≤ m := by
  have hquotient : num / den < m := Nat.div_lt_of_lt_mul (by rwa [Nat.mul_comm])
  unfold divNearest
  dsimp only
  split
  · omega
  · split
    · omega
    · split <;> omega

/-!
## Magnitudes

Magnitude bits are an exponent field over a fraction.  Read as a number they are
`(exponent + scale) * 2 ^ fractionBits + significand`, also where the leading bit
of the significand is hidden in the field.
-/

namespace BinaryFormat

variable (format : BinaryFormat)

theorem exponentField_eq (magnitude : Nat) :
    format.exponentField magnitude = magnitude / 2 ^ format.fractionBits := by
  rfl

theorem fraction_eq (magnitude : Nat) :
    format.fraction magnitude = magnitude % 2 ^ format.fractionBits := by
  rfl

theorem magnitude_split (magnitude : Nat) :
    magnitude = format.exponentField magnitude * 2 ^ format.fractionBits +
      format.fraction magnitude :=
  (Nat.div_add_mod' magnitude _).symm

theorem fraction_lt (magnitude : Nat) :
    format.fraction magnitude < 2 ^ format.fractionBits :=
  Nat.mod_lt _ (Nat.two_pow_pos _)

theorem neg_scale_le_exponent (magnitude : Nat) :
    -(format.scale : Int) ≤ format.exponent magnitude := by
  unfold exponent
  omega

theorem significand_of_subnormal {magnitude : Nat} (h : format.exponentField magnitude = 0) :
    format.significand magnitude = format.fraction magnitude := by
  rw [significand, if_pos h]

theorem significand_of_normal {magnitude : Nat} (h : 1 ≤ format.exponentField magnitude) :
    format.significand magnitude = 2 ^ format.fractionBits + format.fraction magnitude := by
  rw [significand, if_neg (Nat.ne_of_gt h), Nat.pow_eq]

theorem significand_lt (magnitude : Nat) :
    format.significand magnitude < 2 * 2 ^ format.fractionBits := by
  have hfraction := format.fraction_lt magnitude
  rcases Nat.eq_zero_or_pos (format.exponentField magnitude) with hfield | hfield
  · rw [format.significand_of_subnormal hfield]
    omega
  · rw [format.significand_of_normal hfield]
    omega

theorem subnormal_or_normal (magnitude : Nat) :
    (format.exponentField magnitude = 0 ∧
        format.significand magnitude < 2 ^ format.fractionBits ∧
        format.exponent magnitude = -(format.scale : Int)) ∨
      (1 ≤ format.exponentField magnitude ∧
        2 ^ format.fractionBits ≤ format.significand magnitude ∧
        format.exponent magnitude + format.scale = format.exponentField magnitude - 1) := by
  have hfraction := format.fraction_lt magnitude
  by_cases hfield : format.exponentField magnitude = 0
  · left
    refine ⟨hfield, ?_, ?_⟩
    · rw [format.significand_of_subnormal hfield]
      exact hfraction
    · rw [exponent, hfield]
      omega
  · right
    refine ⟨Nat.pos_of_ne_zero hfield, ?_, ?_⟩
    · rw [format.significand_of_normal (Nat.pos_of_ne_zero hfield)]
      exact Nat.le_add_right _ _
    · unfold exponent
      omega

theorem magnitude_eq (magnitude : Nat) :
    magnitude =
      (format.exponent magnitude + format.scale).toNat * 2 ^ format.fractionBits +
        format.significand magnitude := by
  have hsplit := format.magnitude_split magnitude
  rcases format.subnormal_or_normal magnitude with
    ⟨hfield, _, hexponent⟩ | ⟨hfield, _, hexponent⟩
  · have hsignificand := format.significand_of_subnormal hfield
    rw [hexponent, neg_add_cancel, hsignificand, Int.toNat_zero, Nat.zero_mul, Nat.zero_add]
    rwa [hfield, Nat.zero_mul, Nat.zero_add] at hsplit
  · have hsignificand := format.significand_of_normal hfield
    have hnat : (format.exponent magnitude + format.scale).toNat + 1 =
        format.exponentField magnitude := by omega
    rw [← hnat, Nat.add_mul, Nat.one_mul] at hsplit
    omega

def value (magnitude : Nat) : ℚ :=
  format.significand magnitude * 2 ^ format.exponent magnitude

/-- A value that rounds to a float, measured in units of its last place.  Just
below a power of two the units are half as large. -/
structure RoundsTo (v : ℚ) (magnitude : Nat) : Prop where
  near : Near (format.significand magnitude % 2 = 0) (format.significand magnitude)
    (v * 2 ^ (-format.exponent magnitude))
  dense : format.fraction magnitude = 0 -> 1 < format.exponentField magnitude ->
    (format.significand magnitude : ℚ) - 1 / 4 ≤ v * 2 ^ (-format.exponent magnitude)

theorem nearest_of_scaled {num den m : Nat} {q : Int} (hnum : 0 < num) (hden : 0 < den)
    (hq : max (binade num den - format.fractionBits) (-(format.scale : Int)) = q)
    (hnear : Near (m % 2 = 0) m ((num : ℚ) / den * 2 ^ (-q)))
    (hfinite : (q + format.scale).toNat * 2 ^ format.fractionBits + m ≤ format.infinity) :
    format.nearest num den = (q + format.scale).toNat * 2 ^ format.fractionBits + m := by
  rw [← scaleBy_quotient num (-q) hden] at hnear
  have hrounded := divNearest_eq (scaleBy_den_pos num (-q) hden) hnear
  rw [nearest, if_neg hnum.ne', hq]
  dsimp only
  rw [hrounded, Nat.pow_eq, Nat.min_eq_left hfinite]

/-- At the lower end of a binade whose neighbour below is denser, the quotient is
rounded in the neighbour's units and carries into the float. -/
theorem nearest_eq_of_carry {num den magnitude : Nat} {w : ℚ} (hnum : 0 < num) (hden : 0 < den)
    (hbits : 0 < format.fractionBits) (hfinite : magnitude < format.infinity)
    (hw : (num : ℚ) / den = w * 2 ^ format.exponent magnitude)
    (hfield : 1 < format.exponentField magnitude)
    (hsignificand : format.significand magnitude = 2 ^ format.fractionBits)
    (hlow : (2 : ℚ) ^ format.fractionBits - 1 / 4 ≤ w) (hhigh : w < 2 ^ format.fractionBits) :
    format.nearest num den = magnitude := by
  have hpower := two_zpow_pos (format.exponent magnitude)
  have hexponent : format.exponent magnitude + format.scale =
      format.exponentField magnitude - 1 := by
    rcases format.subnormal_or_normal magnitude with ⟨h0, _, _⟩ | ⟨_, _, h⟩
    · omega
    · exact h
  have htwo : (2 : ℚ) ≤ 2 ^ format.fractionBits := by
    calc (2 : ℚ) = 2 ^ 1 := (pow_one 2).symm
      _ ≤ 2 ^ format.fractionBits := pow_le_pow_right₀ (by norm_num) hbits
  have hbinade : binade num den = format.fractionBits + format.exponent magnitude - 1 := by
    apply binade_eq hnum hden
    · rw [hw, zpow_sub_one₀ (by norm_num), two_zpow_add, zpow_natCast]
      nlinarith
    · rw [hw, sub_add_cancel, two_zpow_add, zpow_natCast]
      exact mul_lt_mul_of_pos_right hhigh hpower
  have hq : max (binade num den - format.fractionBits) (-(format.scale : Int)) =
      format.exponent magnitude - 1 := by
    rw [hbinade]
    omega
  have hscaled : (num : ℚ) / den * 2 ^ (-(format.exponent magnitude - 1)) = 2 * w := by
    rw [hw, mul_assoc, ← two_zpow_add]
    have hone : format.exponent magnitude + -(format.exponent magnitude - 1) = 1 := by omega
    rw [hone, zpow_one, mul_comm]
  have hcast : ((2 * 2 ^ format.fractionBits : Nat) : ℚ) = 2 * 2 ^ format.fractionBits := by
    push_cast
    rfl
  have hnear : Near ((2 * 2 ^ format.fractionBits) % 2 = 0) (2 * 2 ^ format.fractionBits)
      ((num : ℚ) / den * 2 ^ (-(format.exponent magnitude - 1))) := by
    rw [hscaled]
    refine ⟨⟨?_, ?_⟩, Or.inl (Nat.mul_mod_right 2 _)⟩
    · rw [hcast]
      linarith
    · rw [hcast]
      linarith
  have hsum : (format.exponent magnitude - 1 + format.scale).toNat * 2 ^ format.fractionBits +
      2 * 2 ^ format.fractionBits = magnitude := by
    have hstep : (format.exponent magnitude + format.scale).toNat =
        (format.exponent magnitude - 1 + format.scale).toNat + 1 := by omega
    conv_rhs => rw [format.magnitude_eq magnitude, hsignificand, hstep]
    ring
  rw [format.nearest_of_scaled hnum hden hq hnear (by omega), hsum]

theorem nearest_eq_of_roundsTo {num den magnitude : Nat} (hnum : 0 < num) (hden : 0 < den)
    (hbits : 0 < format.fractionBits) (hfinite : magnitude < format.infinity)
    (h : format.RoundsTo ((num : ℚ) / den) magnitude) :
    format.nearest num den = magnitude := by
  have hpower := two_zpow_pos (format.exponent magnitude)
  have hmagnitude := format.magnitude_eq magnitude
  have hexponent := format.neg_scale_le_exponent magnitude
  rcases h with ⟨hnear, hdense⟩
  have hw : (num : ℚ) / den =
      (num : ℚ) / den * 2 ^ (-format.exponent magnitude) * 2 ^ format.exponent magnitude := by
    rw [mul_assoc, ← two_zpow_add, neg_add_cancel, zpow_zero, mul_one]
  -- rounding in units of the float's own last place
  have hsame (hq : max (binade num den - format.fractionBits) (-(format.scale : Int)) =
      format.exponent magnitude) : format.nearest num den = magnitude := by
    rw [format.nearest_of_scaled hnum hden hq hnear (by omega), ← hmagnitude]
  generalize (num : ℚ) / den * 2 ^ (-format.exponent magnitude) = w at hw hnear hdense
  rcases hnear.left with ⟨hlow, hhigh⟩
  rcases format.subnormal_or_normal magnitude with ⟨_, hsmall, hlowest⟩ | ⟨hfield, hlarge, hfield'⟩
  · have hbelow : (num : ℚ) / den < 2 ^ (format.fractionBits + format.exponent magnitude) := by
      have hsmall' : (format.significand magnitude : ℚ) + 1 ≤ 2 ^ format.fractionBits := by
        exact_mod_cast hsmall
      rw [hw, two_zpow_add, zpow_natCast]
      exact mul_lt_mul_of_pos_right (by linarith) hpower
    have hbinade := binade_lt hnum hden hbelow
    exact hsame (by omega)
  · by_cases hbase : (2 : ℚ) ^ format.fractionBits ≤ w
    · have hbinade : binade num den = format.fractionBits + format.exponent magnitude := by
        have hsignificand : (format.significand magnitude : ℚ) + 1 ≤
            2 * 2 ^ format.fractionBits := by
          exact_mod_cast format.significand_lt magnitude
        apply binade_eq hnum hden
        · rw [hw, two_zpow_add, zpow_natCast]
          exact mul_le_mul_of_nonneg_right hbase hpower.le
        · rw [hw, zpow_add_one₀ (by norm_num), two_zpow_add, zpow_natCast]
          nlinarith
      exact hsame (by omega)
    · have hbelow : w < 2 ^ format.fractionBits := lt_of_not_ge hbase
      have hsignificand : format.significand magnitude = 2 ^ format.fractionBits := by
        have hle : (format.significand magnitude : ℚ) < 2 ^ format.fractionBits + 1 := by linarith
        have hle' : format.significand magnitude < 2 ^ format.fractionBits + 1 := by
          exact_mod_cast hle
        omega
      by_cases hone : format.exponentField magnitude = 1
      · have hbelow' : (num : ℚ) / den <
            2 ^ (format.fractionBits + format.exponent magnitude) := by
          rw [hw, two_zpow_add, zpow_natCast]
          exact mul_lt_mul_of_pos_right hbelow hpower
        have hbinade := binade_lt hnum hden hbelow'
        exact hsame (by omega)
      · have hfraction : format.fraction magnitude = 0 := by
          have hsum := hsignificand
          rw [format.significand_of_normal hfield] at hsum
          omega
        have hquarter := hdense hfraction (by omega)
        rw [hsignificand] at hquarter
        push_cast at hquarter
        exact format.nearest_eq_of_carry hnum hden hbits hfinite hw (by omega) hsignificand
          hquarter hbelow

theorem nearest_lt_infinity (format : BinaryFormat) {num den : Nat} {b : Int} (hden : 0 < den)
    (hbelow : (num : ℚ) / den < 2 ^ b) (htop : 2 < format.topField)
    (hroom : b + 1 - format.fractionBits + format.scale < format.topField) :
    format.nearest num den < format.infinity := by
  have hunit : 0 < 2 ^ format.fractionBits := Nat.two_pow_pos _
  rcases Nat.eq_zero_or_pos num with hzero | hnum
  · rw [nearest, if_pos hzero, infinity, Nat.pow_eq]
    exact Nat.mul_pos (by omega) hunit
  have hbinade := binade_lt hnum hden hbelow
  generalize hq : max (binade num den - format.fractionBits) (-(format.scale : Int)) = q
  have hscaled : (scaleBy num den (-q)).1 <
      2 ^ (format.fractionBits + 1) * (scaleBy num den (-q)).2 := by
    have hpos : (0 : ℚ) < (scaleBy num den (-q)).2 :=
      Nat.cast_pos.mpr (scaleBy_den_pos num (-q) hden)
    have hlt : ((scaleBy num den (-q)).1 : ℚ) / (scaleBy num den (-q)).2 <
        2 ^ (format.fractionBits + 1) := by
      rw [scaleBy_quotient num (-q) hden]
      calc (num : ℚ) / den * 2 ^ (-q)
          < 2 ^ (binade num den + 1) * 2 ^ (-q) :=
            mul_lt_mul_of_pos_right (binade_le_and_lt hnum hden).right (two_zpow_pos _)
        _ = 2 ^ (binade num den + 1 + -q) := (two_zpow_add _ _).symm
        _ ≤ 2 ^ ((format.fractionBits + 1 : Nat) : Int) :=
            zpow_le_zpow_right₀ (by norm_num) (by omega)
        _ = 2 ^ (format.fractionBits + 1) := zpow_natCast 2 _
    rw [div_lt_iff₀ hpos] at hlt
    exact_mod_cast hlt
  have hrounded := divNearest_le hscaled
  have hfield : (q + format.scale).toNat + 2 < format.topField := by omega
  rw [nearest, if_neg hnum.ne', hq]
  dsimp only
  refine (Nat.min_le_left _ _).trans_lt ?_
  rw [infinity, Nat.pow_eq]
  calc (q + format.scale).toNat * 2 ^ format.fractionBits +
        divNearest (scaleBy num den (-q)).1 (scaleBy num den (-q)).2
      ≤ (q + format.scale).toNat * 2 ^ format.fractionBits + 2 ^ (format.fractionBits + 1) :=
        Nat.add_le_add_left hrounded _
    _ = ((q + format.scale).toNat + 2) * 2 ^ format.fractionBits := by ring
    _ < format.topField * 2 ^ format.fractionBits := Nat.mul_lt_mul_of_pos_right hfield hunit

end BinaryFormat

end Number
end Troupe
