import Troupe.Proofs.Number.Rounding

/-!
# Widening is exact

A double is a sign and a magnitude.  The floats of a narrower format are doubles:
shifting a significand up to the hidden bit of the wider format loses nothing, so
that widening, which rounds, gives the same value back.
-/

namespace Troupe
namespace Number

/-!
## Signs and magnitudes
-/

namespace Binary64

theorem toNat_bits_ofMagnitude
    {negative : Bool} {magnitude : Nat}
    (h : magnitude < BinaryFormat.binary64.signBit) :
    (ofMagnitude negative magnitude).bits.toNat =
      if negative then BinaryFormat.binary64.signBit + magnitude else magnitude := by
  have hsign : BinaryFormat.binary64.signBit = 2 ^ 63 := rfl
  unfold ofMagnitude
  apply UInt64.toNat_ofNat_of_lt'
  rw [show UInt64.size = 2 ^ 64 from rfl]
  split <;> omega

theorem magnitude_ofMagnitude
    {negative : Bool} {magnitude : Nat}
    (h : magnitude < BinaryFormat.binary64.signBit) :
    (ofMagnitude negative magnitude).magnitude = magnitude := by
  rw [Binary64.magnitude, toNat_bits_ofMagnitude h]
  split
  · rw [Nat.add_mod_left, Nat.mod_eq_of_lt h]
  · exact Nat.mod_eq_of_lt h

theorem negative_ofMagnitude
    {negative : Bool} {magnitude : Nat}
    (h : magnitude < BinaryFormat.binary64.signBit) :
    (ofMagnitude negative magnitude).negative = negative := by
  rw [Binary64.negative, toNat_bits_ofMagnitude h]
  cases negative with
  | false => exact decide_eq_false (Nat.not_le_of_lt h)
  | true => exact decide_eq_true (Nat.le_add_right _ _)

theorem ofMagnitude_self (x : Binary64) : ofMagnitude x.negative x.magnitude = x := by
  have hsign : BinaryFormat.binary64.signBit = 2 ^ 63 := rfl
  have hbits := x.bits.toNat_lt
  have hmagnitude : x.magnitude = x.bits.toNat % 2 ^ 63 := rfl
  have hnegative : x.negative = decide (2 ^ 63 ≤ x.bits.toNat) := rfl
  have hsame : (if x.negative then BinaryFormat.binary64.signBit + x.magnitude
      else x.magnitude) = x.bits.toNat := by
    rw [hnegative, hmagnitude, hsign]
    split
    next h =>
      have hle := of_decide_eq_true h
      omega
    next h =>
      have hlt : ¬ 2 ^ 63 ≤ x.bits.toNat := fun hle => h (decide_eq_true hle)
      omega
  rw [ofMagnitude, hsame, UInt64.ofNat_toNat]

end Binary64

/-!
## Values
-/

namespace BinaryFormat

theorem exponentField_of_parts (format : BinaryFormat) (field : Nat) {fraction : Nat}
    (h : fraction < 2 ^ format.fractionBits) :
    format.exponentField (field * 2 ^ format.fractionBits + fraction) = field := by
  rw [exponentField_eq, Nat.add_comm, Nat.add_mul_div_right _ _ (Nat.two_pow_pos _),
    Nat.div_eq_of_lt h, Nat.zero_add]

theorem fraction_of_parts (format : BinaryFormat) (field : Nat) {fraction : Nat}
    (h : fraction < 2 ^ format.fractionBits) :
    format.fraction (field * 2 ^ format.fractionBits + fraction) = fraction := by
  rw [fraction_eq, Nat.mul_add_mod_self_right, Nat.mod_eq_of_lt h]

theorem value_zero (format : BinaryFormat) : format.value 0 = 0 := by
  simp [value, significand, exponentField, fraction]

theorem roundsTo_value (format : BinaryFormat) (magnitude : Nat) :
    format.RoundsTo (format.value magnitude) magnitude := by
  have hscaled : format.value magnitude * 2 ^ (-format.exponent magnitude) =
      format.significand magnitude := by
    rw [value, mul_assoc, ← two_zpow_add, add_neg_cancel, zpow_zero, mul_one]
  constructor
  · rw [hscaled]
    refine ⟨⟨?_, ?_⟩, Or.inr ⟨?_, ?_⟩⟩ <;> linarith
  · intro _ _
    rw [hscaled]
    linarith

theorem nearest_eq_of_value_eq {format : BinaryFormat} {num den magnitude : Nat}
    (hnum : 0 < num) (hden : 0 < den) (hbits : 0 < format.fractionBits)
    (hfinite : magnitude < format.infinity)
    (hvalue : format.value magnitude = (num : ℚ) / den) :
    format.nearest num den = magnitude := by
  apply format.nearest_eq_of_roundsTo hnum hden hbits hfinite
  rw [← hvalue]
  exact format.roundsTo_value magnitude

/-- A significand with bits to spare, at an exponent well inside the range of
doubles, is the value of a normal double. -/
theorem exists_value_eq {m : Nat} {e : Int} (hm : 0 < m) (hsmall : m < 2 ^ 52)
    (hlow : -1000 ≤ e) (hhigh : e ≤ 971) :
    exists magnitude : Nat,
      magnitude < binary64.infinity ∧ binary64.value magnitude = m * 2 ^ e := by
  have hlog : m.log2 < 52 := (Nat.log2_lt hm.ne').mpr hsmall
  -- `shift` brings the leading bit to the position of the hidden one
  obtain ⟨shift, hshift⟩ : exists shift : Nat, m.log2 + shift = 52 := ⟨52 - m.log2, by omega⟩
  obtain ⟨field, hfield⟩ := Int.eq_ofNat_of_zero_le (show 0 ≤ e - shift + 1075 by omega)
  have hfieldPos : field ≠ 0 := by omega
  have hfieldLe : field ≤ 2046 := by omega
  have hexponent : ((field - 1 : Nat) : Int) - binary64.scale = e - shift := by
    rw [show binary64.scale = 1074 from rfl]
    omega
  have hleast : 2 ^ 52 ≤ m * 2 ^ shift := by
    rw [← hshift, Nat.pow_add]
    exact Nat.mul_le_mul_right _ (Nat.log2_self_le hm.ne')
  have hmost : m * 2 ^ shift < 2 ^ 52 + 2 ^ 52 := by
    rw [← Nat.two_mul, ← hshift, Nat.pow_add, ← Nat.mul_assoc, ← Nat.pow_succ']
    exact Nat.mul_lt_mul_of_pos_right Nat.lt_log2_self (Nat.two_pow_pos _)
  obtain ⟨fraction, hfraction⟩ := Nat.exists_eq_add_of_le hleast
  have hfractionLt : fraction < 2 ^ binary64.fractionBits := by
    rw [hfraction] at hmost
    exact Nat.lt_of_add_lt_add_left hmost
  have hexponentField := exponentField_of_parts binary64 field hfractionLt
  refine ⟨field * 2 ^ binary64.fractionBits + fraction, ?_, ?_⟩
  · calc field * 2 ^ binary64.fractionBits + fraction
        < field * 2 ^ binary64.fractionBits + 2 ^ binary64.fractionBits :=
          Nat.add_lt_add_left hfractionLt _
      _ = (field + 1) * 2 ^ binary64.fractionBits := (Nat.succ_mul _ _).symm
      _ ≤ binary64.infinity := Nat.mul_le_mul_right _ (Nat.succ_le_succ hfieldLe)
  · have hsignificand :
        binary64.significand (field * 2 ^ binary64.fractionBits + fraction) = m * 2 ^ shift := by
      rw [significand, hexponentField, if_neg hfieldPos,
        fraction_of_parts binary64 field hfractionLt, hfraction]
      rfl
    have hsum : (shift : Int) + (e - shift) = e := by omega
    rw [value, hsignificand, exponent, hexponentField, hexponent, Nat.cast_mul, Nat.cast_pow,
      Nat.cast_ofNat, ← zpow_natCast, mul_assoc, ← two_zpow_add, hsum]

/-!
## Narrower formats
-/

/-- A double that is a float of a narrower format: it has the sign and the value,
or it is infinite or not a number like the float. -/
structure Embeds (format : BinaryFormat) (bits : Nat) (x : Binary64) : Prop where
  negative : x.negative = decide (format.signBit ≤ bits)
  finite : bits % format.signBit < format.infinity ->
    x.isFinite = true ∧
      binary64.value x.magnitude = format.value (bits % format.signBit)
  infinite : bits % format.signBit = format.infinity -> x.magnitude = binary64.infinity
  notANumber : format.infinity < bits % format.signBit -> x.isNaN = true

/-- The range of a format leaves room within that of doubles. -/
structure Narrow (format : BinaryFormat) : Prop where
  fractionBits_lt : format.fractionBits < 52
  scale_le : format.scale ≤ 1000
  topField_le : format.topField ≤ format.scale + 970

theorem narrow_binary16 : binary16.Narrow := by
  constructor <;> decide

theorem narrow_binary32 : binary32.Narrow := by
  constructor <;> decide

theorem Narrow.exists_value_eq {format : BinaryFormat} (hnarrow : format.Narrow)
    {magnitude : Nat} (hfinite : magnitude < format.infinity)
    (hpos : 0 < format.significand magnitude) :
    exists wide : Nat,
      wide < binary64.infinity ∧ binary64.value wide = format.value magnitude := by
  rcases hnarrow with ⟨hbits, hscale, htop⟩
  have hsmall : format.significand magnitude < 2 ^ 52 := by
    calc format.significand magnitude < 2 * 2 ^ format.fractionBits :=
          format.significand_lt magnitude
      _ = 2 ^ (format.fractionBits + 1) := by rw [Nat.pow_succ, Nat.mul_comm]
      _ ≤ 2 ^ 52 := Nat.pow_le_pow_right (by decide) hbits
  have hfield : format.exponentField magnitude < format.topField :=
    Nat.div_lt_of_lt_mul (by rwa [Nat.mul_comm])
  have hlow := format.neg_scale_le_exponent magnitude
  have hhigh : format.exponent magnitude ≤ 971 := by
    rcases format.subnormal_or_normal magnitude with ⟨_, _, h⟩ | ⟨_, _, h⟩
    · omega
    · omega
  exact BinaryFormat.exists_value_eq hpos hsmall (by omega) hhigh

/-- The double nearest to the value of a narrower float has that very value. -/
theorem Narrow.nearest_exact {format : BinaryFormat} (hnarrow : format.Narrow)
    {magnitude : Nat} (hfinite : magnitude < format.infinity) :
    exists wide : Nat,
      wide < binary64.infinity ∧ binary64.value wide = format.value magnitude ∧
        binary64.nearest (scaleBy (format.significand magnitude) 1 (format.exponent magnitude)).1
          (scaleBy (format.significand magnitude) 1 (format.exponent magnitude)).2 = wide := by
  have hquotient := scaleBy_quotient (format.significand magnitude)
    (format.exponent magnitude) Nat.one_pos
  have hden := scaleBy_den_pos (format.significand magnitude)
    (format.exponent magnitude) Nat.one_pos
  rw [Nat.cast_one, div_one] at hquotient
  rcases Nat.eq_zero_or_pos (format.significand magnitude) with hzero | hpos
  · have hvalue : format.value magnitude = 0 := by
      rw [value, hzero, Nat.cast_zero, zero_mul]
    have hnum : (scaleBy (format.significand magnitude) 1 (format.exponent magnitude)).1 = 0 := by
      rw [hzero, scaleBy]
      split <;> simp
    refine ⟨0, by decide, ?_, ?_⟩
    · rw [hvalue, value_zero]
    · rw [hnum, nearest, if_pos rfl]
  · rcases hnarrow.exists_value_eq hfinite hpos with ⟨wide, hwide, hvalue⟩
    refine ⟨wide, hwide, hvalue, ?_⟩
    have hnum :
        0 < (scaleBy (format.significand magnitude) 1 (format.exponent magnitude)).1 := by
      rw [scaleBy]
      split
      · exact Nat.mul_pos hpos (Nat.two_pow_pos _)
      · exact hpos
    exact nearest_eq_of_value_eq hnum hden (by decide) hwide (hvalue.trans hquotient.symm)

end BinaryFormat

theorem Binary64.embeds_widen {format : BinaryFormat} (hnarrow : format.Narrow) (bits : Nat) :
    format.Embeds bits (widen format bits) := by
  have hinfinity : BinaryFormat.binary64.infinity = 2047 * 2 ^ 52 := rfl
  have hsign : BinaryFormat.binary64.signBit = 2048 * 2 ^ 52 := rfl
  have hsignNarrow : format.infinity < format.signBit := by
    exact Nat.mul_lt_mul_of_pos_right (Nat.lt_succ_self _) (Nat.two_pow_pos _)
  unfold widen
  dsimp only
  split
  next hfinite =>
    rcases hnarrow.nearest_exact hfinite with ⟨wide, hwide, hvalue, hnearest⟩
    have hlt : wide < BinaryFormat.binary64.signBit := by omega
    rw [ofRatio, hnearest]
    constructor
    · exact negative_ofMagnitude hlt
    · intro _
      rw [isFinite, magnitude_ofMagnitude hlt]
      exact ⟨decide_eq_true hwide, hvalue⟩
    · intro h
      omega
    · intro h
      omega
  next hnot =>
    split
    next hinf =>
      constructor
      · exact negative_ofMagnitude (by decide)
      · intro h
        omega
      · intro _
        exact magnitude_ofMagnitude (by decide)
      · intro h
        omega
    next hne =>
      have hbits : format.fractionBits + (52 - format.fractionBits) = 52 :=
        Nat.add_sub_of_le (Nat.le_of_lt hnarrow.fractionBits_lt)
      have hpayload : format.fraction (bits % format.signBit) * 2 ^ (52 - format.fractionBits) <
          2 ^ 52 := by
        calc format.fraction (bits % format.signBit) * 2 ^ (52 - format.fractionBits)
            < 2 ^ format.fractionBits * 2 ^ (52 - format.fractionBits) :=
              Nat.mul_lt_mul_of_pos_right (format.fraction_lt _) (Nat.two_pow_pos _)
          _ = 2 ^ 52 := by rw [← Nat.pow_add, hbits]
      have hquiet := Nat.or_lt_two_pow hpayload (show 2 ^ 51 < 2 ^ 52 by decide)
      have hset : 2 ^ 51 ≤ format.fraction (bits % format.signBit) *
          2 ^ (52 - format.fractionBits) ||| 2 ^ 51 := Nat.right_le_or
      have hlt : BinaryFormat.binary64.infinity + (format.fraction (bits % format.signBit) *
          2 ^ (52 - format.fractionBits) ||| 2 ^ 51) < BinaryFormat.binary64.signBit := by omega
      rw [Nat.pow_eq, show 0x8000000000000 = 2 ^ 51 from rfl]
      constructor
      · exact negative_ofMagnitude hlt
      · intro h
        omega
      · intro h
        omega
      · intro _
        rw [isNaN, magnitude_ofMagnitude hlt]
        exact decide_eq_true (by omega)

end Number
end Troupe
