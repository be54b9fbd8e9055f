import Troupe.Number.Shortest
import Troupe.Proofs.Number.Widening

/-!
# Shortest decimals round back

A decimal is taken for a float only when it lies in the float's rounding interval,
and the fallback is the value itself.  How short the decimal is plays no part.
-/

namespace Troupe
namespace Number

def Decimal.value (decimal : Decimal) : ℚ :=
  decimal.digits * 10 ^ decimal.exponent

theorem ten_zpow_pos (e : Int) : (0 : ℚ) < 10 ^ e :=
  zpow_pos (by norm_num) e

theorem zpow_eq_quotient (b : Nat) (e : Int) :
    (b : ℚ) ^ e =
      ((if 0 ≤ e then b ^ e.toNat else 1 : Nat) : ℚ) /
        ((if 0 ≤ e then 1 else b ^ (-e).toNat : Nat) : ℚ) := by
  by_cases he : 0 ≤ e
  · obtain ⟨k, rfl⟩ := Int.eq_ofNat_of_zero_le he
    rw [if_pos he, if_pos he, Int.toNat_natCast, zpow_natCast, Nat.cast_one, div_one, Nat.cast_pow]
  · obtain ⟨k, hk⟩ := Int.eq_ofNat_of_zero_le (show 0 ≤ -e by omega)
    have he' : e = -(k : Int) := by omega
    rw [if_neg he, if_neg he, hk, Int.toNat_natCast, he', zpow_neg, zpow_natCast, Nat.cast_one,
      one_div, Nat.cast_pow]

/-!
## The interval test
-/

namespace RoundingInterval

def quarters (interval : RoundingInterval) (k : Nat) : ℚ :=
  k * 2 ^ interval.exponent

theorem factors_spec (interval : RoundingInterval) (ten : Int) :
    exists unit : ℚ, 0 < unit ∧
      (10 : ℚ) ^ ten = (interval.factors ten).1 * unit ∧
      (2 : ℚ) ^ interval.exponent = (interval.factors ten).2 * unit := by
  have hten := zpow_eq_quotient 10 ten
  have htwo := zpow_eq_quotient 2 interval.exponent
  rw [Nat.cast_ofNat] at hten htwo
  have htenPos : 0 < if 0 ≤ ten then 1 else 10 ^ (-ten).toNat := by
    split
    · exact Nat.one_pos
    · exact Nat.pow_pos (by decide)
  have htwoPos : 0 < if 0 ≤ interval.exponent then 1 else 2 ^ (-interval.exponent).toNat := by
    split
    · exact Nat.one_pos
    · exact Nat.pow_pos (by decide)
  have hfactors : interval.factors ten =
      ((if 0 ≤ ten then 10 ^ ten.toNat else 1) *
          (if 0 ≤ interval.exponent then 1 else 2 ^ (-interval.exponent).toNat),
        (if 0 ≤ ten then 1 else 10 ^ (-ten).toNat) *
          (if 0 ≤ interval.exponent then 2 ^ interval.exponent.toNat else 1)) := by
    unfold factors
    by_cases hexponent : 0 ≤ interval.exponent
    · simp only [hexponent, if_true, Nat.mul_one, Nat.pow_eq]
    · simp only [hexponent, if_false, Nat.mul_one, Nat.pow_eq]
  rw [hfactors, hten, htwo]
  generalize (if 0 ≤ ten then 10 ^ ten.toNat else 1) = p
  generalize (if 0 ≤ interval.exponent then 2 ^ interval.exponent.toNat else 1) = r
  generalize (if 0 ≤ ten then 1 else 10 ^ (-ten).toNat) = p' at htenPos
  generalize (if 0 ≤ interval.exponent then 1 else 2 ^ (-interval.exponent).toNat) = r' at htwoPos
  have hp : (p' : ℚ) ≠ 0 := Nat.cast_ne_zero.mpr htenPos.ne'
  have hr : (r' : ℚ) ≠ 0 := Nat.cast_ne_zero.mpr htwoPos.ne'
  refine ⟨1 / (p' * r'), by positivity, ?_, ?_⟩
  · push_cast
    field_simp
  · push_cast
    field_simp

theorem contains_spec {interval : RoundingInterval} {ten : Int} {d : Nat}
    (h : interval.contains ten d = true) :
    (interval.quarters interval.low ≤ d * 10 ^ ten ∧
        d * 10 ^ ten ≤ interval.quarters interval.high) ∧
      (interval.closed = true ∨
        (interval.quarters interval.low < d * 10 ^ ten ∧
          d * 10 ^ ten < interval.quarters interval.high)) := by
  obtain ⟨unit, hunit, hten, htwo⟩ := interval.factors_spec ten
  unfold contains at h
  generalize interval.factors ten = factors at h hten htwo
  rcases factors with ⟨first, second⟩
  dsimp only at h hten htwo
  have hle : forall {a b : Nat}, a ≤ b -> (a : ℚ) * unit ≤ b * unit := by
    intro a b hab
    exact mul_le_mul_of_nonneg_right (Nat.cast_le.mpr hab) hunit.le
  have hlt : forall {a b : Nat}, a < b -> (a : ℚ) * unit < b * unit := by
    intro a b hab
    exact mul_lt_mul_of_pos_right (Nat.cast_lt.mpr hab) hunit
  have hquarters : forall k : Nat, interval.quarters k = ((k * second : Nat) : ℚ) * unit := by
    intro k
    rw [quarters, htwo, Nat.cast_mul, mul_assoc]
  have hdecimal : (d : ℚ) * 10 ^ ten = ((d * first : Nat) : ℚ) * unit := by
    rw [hten, Nat.cast_mul, mul_assoc]
  rw [hquarters, hquarters, hdecimal]
  cases hclosed : interval.closed with
  | true =>
      rw [hclosed, if_pos rfl, Bool.and_eq_true, decide_eq_true_eq, decide_eq_true_eq] at h
      exact ⟨⟨hle h.left, hle h.right⟩, Or.inl rfl⟩
  | false =>
      rw [hclosed, if_neg Bool.false_ne_true, Bool.and_eq_true, decide_eq_true_eq,
        decide_eq_true_eq] at h
      exact ⟨⟨hle h.left.le, hle h.right.le⟩, Or.inr ⟨hlt h.left, hlt h.right⟩⟩

theorem contains_of_multiple? {interval : RoundingInterval} {tie : Tie} {ten : Int} {d : Nat}
    (h : interval.multiple? tie ten = some d) : interval.contains ten d = true := by
  -- which of the two candidates is tried first does not matter
  have hcandidates : forall candidates : Nat × Nat,
      (if interval.contains ten candidates.1 then some candidates.1
        else if interval.contains ten candidates.2 then some candidates.2 else none) = some d ->
        interval.contains ten d = true := by
    intro candidates hfound
    split_ifs at hfound with hnear hfar
    · cases hfound
      exact hnear
    · cases hfound
      exact hfar
  exact hcandidates _ h

theorem value_exact (interval : RoundingInterval) :
    interval.exact.value = interval.quarters interval.center := by
  unfold exact
  split
  next hexponent =>
    obtain ⟨k, hk⟩ := Int.eq_ofNat_of_zero_le hexponent
    rw [quarters, Decimal.value, hk, Int.toNat_natCast, zpow_natCast, zpow_zero, mul_one,
      Nat.cast_mul, Nat.pow_eq, Nat.cast_pow, Nat.cast_ofNat]
  next hexponent =>
    obtain ⟨k, hk⟩ := Int.eq_ofNat_of_zero_le (show 0 ≤ -interval.exponent by omega)
    have hk' : interval.exponent = -(k : Int) := by omega
    have hten : (10 : ℚ) ^ k = 5 ^ k * 2 ^ k := by
      rw [← mul_pow]
      norm_num
    rw [quarters, Decimal.value]
    dsimp only
    rw [hk, Int.toNat_natCast, hk', zpow_neg, zpow_neg, zpow_natCast, zpow_natCast, hten,
      Nat.cast_mul, Nat.pow_eq, Nat.cast_pow, Nat.cast_ofNat]
    field_simp

end RoundingInterval

/-!
## Floats
-/

namespace Binary64

theorem significand_pos {x : Binary64} (hpos : 0 < x.magnitude) : 0 < x.significand := by
  have hmagnitude := BinaryFormat.binary64.magnitude_eq x.magnitude
  rcases BinaryFormat.binary64.subnormal_or_normal x.magnitude with
    ⟨_, _, hexponent⟩ | ⟨_, hlarge, _⟩
  · rw [hexponent, neg_add_cancel, Int.toNat_zero, Nat.zero_mul, Nat.zero_add] at hmagnitude
    rwa [hmagnitude] at hpos
  · exact Nat.lt_of_lt_of_le (Nat.two_pow_pos _) hlarge

theorem quarters_scaled (x : Binary64) (k : Nat) :
    x.roundingInterval.quarters k * 2 ^ (-x.exponent) = k / 4 := by
  have hexponent : x.roundingInterval.exponent + -x.exponent = -2 := by
    change x.exponent - 2 + -x.exponent = -2
    omega
  rw [RoundingInterval.quarters, mul_assoc, ← two_zpow_add, hexponent]
  norm_num
  ring

/-- Decimals in the rounding interval of a float round to it. -/
theorem roundsTo_of_contains {x : Binary64} {ten : Int} {d : Nat} (hpos : 0 < x.magnitude)
    (h : x.roundingInterval.contains ten d = true) :
    BinaryFormat.binary64.RoundsTo (d * 10 ^ ten) x.magnitude := by
  have hm := significand_pos hpos
  have hpower := two_zpow_pos (-x.exponent)
  rcases RoundingInterval.contains_spec h with ⟨⟨hlow, hhigh⟩, hends⟩
  have hlow' := mul_le_mul_of_nonneg_right hlow hpower.le
  have hhigh' := mul_le_mul_of_nonneg_right hhigh hpower.le
  rw [quarters_scaled] at hlow' hhigh'
  have hends' : x.roundingInterval.closed = true ∨
      ((x.roundingInterval.low : ℚ) / 4 < d * 10 ^ ten * 2 ^ (-x.exponent) ∧
        d * 10 ^ ten * 2 ^ (-x.exponent) < (x.roundingInterval.high : ℚ) / 4) := by
    rcases hends with hclosed | ⟨hlow, hhigh⟩
    · exact Or.inl hclosed
    · have hlow'' := mul_lt_mul_of_pos_right hlow hpower
      have hhigh'' := mul_lt_mul_of_pos_right hhigh hpower
      rw [quarters_scaled] at hlow'' hhigh''
      exact Or.inr ⟨hlow'', hhigh''⟩
  have hhighEq : (x.roundingInterval.high : ℚ) = 4 * x.significand + 2 := by
    exact_mod_cast (show x.roundingInterval.high = 4 * x.significand + 2 from rfl)
  have hlowLe : (4 : ℚ) * x.significand - 2 ≤ x.roundingInterval.low := by
    have hnat : 4 * x.significand ≤ x.roundingInterval.low + 2 := by
      unfold roundingInterval
      dsimp only
      split <;> omega
    have hcast : (4 : ℚ) * x.significand ≤ x.roundingInterval.low + 2 := by exact_mod_cast hnat
    linarith
  have hclosed : x.roundingInterval.closed = true -> x.significand % 2 = 0 := of_decide_eq_true
  have hdense : BinaryFormat.binary64.fraction x.magnitude = 0 ->
      1 < BinaryFormat.binary64.exponentField x.magnitude ->
        (x.roundingInterval.low : ℚ) = 4 * x.significand - 1 := by
    intro hfraction hfield
    have hnat : x.roundingInterval.low + 1 = 4 * x.significand := by
      unfold roundingInterval
      simp only [hfraction, hfield, decide_true, Bool.and_self, if_true]
      omega
    have hcast : (x.roundingInterval.low : ℚ) + 1 = 4 * x.significand := by exact_mod_cast hnat
    linarith
  constructor
  · change Near (x.significand % 2 = 0) x.significand (d * 10 ^ ten * 2 ^ (-x.exponent))
    refine ⟨⟨?_, ?_⟩, ?_⟩
    · linarith
    · linarith
    · rcases hends' with h | ⟨hlow'', hhigh''⟩
      · exact Or.inl (hclosed h)
      · exact Or.inr ⟨by linarith, by linarith⟩
  · intro hfraction hfield
    have hlowEq := hdense hfraction hfield
    change (x.significand : ℚ) - 1 / 4 ≤ d * 10 ^ ten * 2 ^ (-x.exponent)
    linarith

theorem roundsTo_shortest {x : Binary64} (hpos : 0 < x.magnitude) (tie : Tie) :
    BinaryFormat.binary64.RoundsTo (x.shortest tie).value x.magnitude := by
  unfold shortest
  rw [if_neg hpos.ne']
  dsimp only
  cases hfound : (List.range 17).findSome? fun (i : Nat) =>
      (x.roundingInterval.multiple? tie (x.roundingInterval.decade - i)).map
        fun d => ({ digits := d, exponent := x.roundingInterval.decade - i } : Decimal) with
  | none =>
      have hvalue : x.roundingInterval.exact.value =
          BinaryFormat.binary64.value x.magnitude := by
        have hexponent : x.exponent = x.roundingInterval.exponent + 2 := by
          change x.exponent = x.exponent - 2 + 2
          omega
        have hcenter : (x.roundingInterval.center : ℚ) = 4 * x.significand := by
          exact_mod_cast (show x.roundingInterval.center = 4 * x.significand from rfl)
        change _ = (x.significand : ℚ) * 2 ^ x.exponent
        rw [RoundingInterval.value_exact, RoundingInterval.quarters, hcenter, hexponent,
          two_zpow_add]
        norm_num
        ring
      rw [Option.getD_none, hvalue]
      exact BinaryFormat.binary64.roundsTo_value x.magnitude
  | some decimal =>
      rcases List.exists_of_findSome?_eq_some hfound with ⟨i, _, hi⟩
      rcases Option.map_eq_some_iff.mp hi with ⟨d, hd, hdecimal⟩
      rw [Option.getD_some, ← hdecimal]
      exact roundsTo_of_contains hpos (RoundingInterval.contains_of_multiple? hd)

end Binary64

theorem two_zpow_lt_ten_zpow : (2 : ℚ) ^ (1200 : Int) < 10 ^ (400 : Int) := by
  have height : (2 : ℚ) ^ (1200 : Int) = 8 ^ (400 : Int) := by
    rw [show (1200 : Int) = 3 * 400 from rfl, zpow_mul]
    norm_num
  rw [height]
  exact zpow_lt_zpow_left₀ (by norm_num) (by norm_num) (by norm_num)

/-- What rounds to a positive double lies well within four hundred decades. -/
theorem BinaryFormat.range_of_roundsTo {v : ℚ} {magnitude : Nat} (hpos : 0 < magnitude)
    (hfinite : magnitude < binary64.infinity) (h : binary64.RoundsTo v magnitude) :
    (10 : ℚ) ^ (-400 : Int) < v ∧ v < 10 ^ (400 : Int) := by
  have hpower := two_zpow_pos (binary64.exponent magnitude)
  have hsmallest : (1 : ℚ) ≤ binary64.significand magnitude := by
    rcases binary64.subnormal_or_normal magnitude with ⟨_, _, hexponent⟩ | ⟨_, hlarge, _⟩
    · have hmagnitude := binary64.magnitude_eq magnitude
      rw [hexponent, neg_add_cancel, Int.toNat_zero, Nat.zero_mul, Nat.zero_add] at hmagnitude
      rw [← hmagnitude]
      exact_mod_cast hpos
    · exact_mod_cast (Nat.two_pow_pos 52).trans_le hlarge
  have hlargest : (binary64.significand magnitude : ℚ) + 1 ≤ 2 ^ 53 := by
    exact_mod_cast binary64.significand_lt magnitude
  have hlow : (2 : ℚ) ^ (-1074 : Int) ≤ 2 ^ binary64.exponent magnitude :=
    zpow_le_zpow_right₀ (by norm_num) (binary64.neg_scale_le_exponent magnitude)
  have hhigh : (2 : ℚ) ^ binary64.exponent magnitude ≤ 2 ^ (971 : Int) := by
    apply zpow_le_zpow_right₀ (by norm_num)
    have hfield : binary64.exponentField magnitude < 2047 :=
      Nat.div_lt_of_lt_mul (by rwa [Nat.mul_comm])
    have hscale : binary64.scale = 1074 := rfl
    rcases binary64.subnormal_or_normal magnitude with ⟨_, _, hexponent⟩ | ⟨_, _, hexponent⟩
    · omega
    · omega
  have hv : v = v * 2 ^ (-binary64.exponent magnitude) * 2 ^ binary64.exponent magnitude := by
    rw [mul_assoc, ← two_zpow_add, neg_add_cancel, zpow_zero, mul_one]
  rcases h.near.left with ⟨hnearLow, hnearHigh⟩
  constructor
  · have hinverse : (10 : ℚ) ^ (-400 : Int) < 2 ^ (-1200 : Int) := by
      rw [zpow_neg, zpow_neg]
      exact inv_strictAnti₀ (two_zpow_pos _) two_zpow_lt_ten_zpow
    calc (10 : ℚ) ^ (-400 : Int) < 2 ^ (-1200 : Int) := hinverse
      _ ≤ 2 ^ (-1075 : Int) := zpow_le_zpow_right₀ (by norm_num) (by norm_num)
      _ = 1 / 2 * 2 ^ (-1074 : Int) := by
          rw [show (-1075 : Int) = -1 + -1074 from rfl, two_zpow_add, zpow_neg_one, one_div]
      _ ≤ 1 / 2 * 2 ^ binary64.exponent magnitude := by linarith
      _ ≤ v * 2 ^ (-binary64.exponent magnitude) * 2 ^ binary64.exponent magnitude :=
          mul_le_mul_of_nonneg_right (by linarith) hpower.le
      _ = v := hv.symm
  · calc v = v * 2 ^ (-binary64.exponent magnitude) * 2 ^ binary64.exponent magnitude := hv
      _ ≤ 2 ^ 53 * 2 ^ binary64.exponent magnitude :=
          mul_le_mul_of_nonneg_right (by linarith) hpower.le
      _ ≤ 2 ^ 53 * 2 ^ (971 : Int) := mul_le_mul_of_nonneg_left hhigh (by positivity)
      _ = 2 ^ (1024 : Int) := by
          rw [show (1024 : Int) = 53 + 971 from rfl, two_zpow_add]
          rfl
      _ ≤ 2 ^ (1200 : Int) := zpow_le_zpow_right₀ (by norm_num) (by norm_num)
      _ < 10 ^ (400 : Int) := two_zpow_lt_ten_zpow

end Number
end Troupe
