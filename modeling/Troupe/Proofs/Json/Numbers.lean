import Troupe.Json.Text
import Troupe.Proofs.Json.Literals
import Troupe.Proofs.Number.Digits
import Troupe.Proofs.Text.Ascii

/-!
# Numbers read back

Every layout of a number is a literal, whose coefficient and scale are those of
the decimal laid out.  Reading rounds that decimal, and a shortest decimal rounds
to the float that it was made for.  A float has a point or an exponent in all
layouts, and an integer has neither.
-/

namespace Troupe
namespace Json

open Number Text

/-!
## Digits as bytes
-/

theorem ascii_of_digitChars {cs : List Char} (h : DigitChars cs) :
    forall c : Char, c ∈ cs -> c.toNat < 128 := by
  intro c hmem
  have hbounds := toNat_bounds_of_isDigit (h c hmem)
  omega

theorem isDigit_asciiByte {c : Char} (h : c.isDigit = true) : isDigit (asciiByte c) = true := by
  have hbounds := toNat_bounds_of_isDigit h
  have hbyte := toNat_asciiByte (show c.toNat < 128 by omega)
  unfold isDigit
  rw [Bool.and_eq_true, decide_eq_true_eq, decide_eq_true_eq, UInt8.le_iff_toNat_le,
    UInt8.le_iff_toNat_le, hbyte]
  exact hbounds

theorem digits_bytesOf {cs : List Char} (h : DigitChars cs) : Digits (bytesOf cs) := by
  intro b hmem
  rw [bytesOf_ascii (ascii_of_digitChars h)] at hmem
  rcases List.mem_map.mp hmem with ⟨c, hc, rfl⟩
  exact isDigit_asciiByte (h c hc)

theorem length_bytesOf_digits {cs : List Char} (h : DigitChars cs) :
    (bytesOf cs).length = cs.length := by
  rw [bytesOf_ascii (ascii_of_digitChars h), List.length_map]

theorem digitsValue_bytesOf {cs : List Char} (h : DigitChars cs) :
    digitsValue (bytesOf cs) = decimalValue cs := by
  have hfold : forall {cs : List Char} (n : Nat), DigitChars cs ->
      (cs.map asciiByte).foldl (fun n b => n * 10 + (b.toNat - 0x30)) n =
        Nat.ofDigitChars 10 cs n := by
    intro cs
    induction cs with
    | nil =>
        intro n _
        rfl
    | cons c rest ih =>
        intro n hdigits
        have hc := toNat_bounds_of_isDigit (hdigits c List.mem_cons_self)
        rw [List.map_cons, List.foldl_cons, Nat.ofDigitChars_cons, Nat.mul_comm 10 n,
          toNat_asciiByte (by omega)]
        exact ih _ (fun c' hmem => hdigits c' (List.mem_cons_of_mem c hmem))
  rw [bytesOf_ascii (ascii_of_digitChars h)]
  exact hfold 0 h

/-!
## Literals of characters
-/

namespace Literal

def ofChars (whole : List Char) (fraction : Option (List Char)) (exponent : Option Int) :
    Literal :=
  { whole := bytesOf whole
    fraction := fraction.map bytesOf
    exponent := exponent.map fun e =>
      (decide (e < 0), bytesOf (Nat.toDigits 10 e.natAbs)) }

def fractionText : Option (List Char) -> List Char
  | none => []
  | some ds => '.' :: ds

def exponentText : Option Int -> List Char
  | none => []
  | some e => 'e' :: ((if e < 0 then ['-'] else ['+']) ++ Nat.toDigits 10 e.natAbs)

section OfChars

variable {whole : List Char} {fraction : Option (List Char)} {exponent : Option Int}

theorem bytes_ofChars (whole : List Char) (fraction : Option (List Char))
    (exponent : Option Int) :
    (ofChars whole fraction exponent).bytes =
      bytesOf (whole ++ fractionText fraction ++ exponentText exponent) := by
  have hfraction : fractionBytes (fraction.map bytesOf) = bytesOf (fractionText fraction) := by
    cases fraction <;> rfl
  have hexponent : exponentBytes (exponent.map fun e =>
      (decide (e < 0), bytesOf (Nat.toDigits 10 e.natAbs))) = bytesOf (exponentText exponent) := by
    cases exponent with
    | none => rfl
    | some e =>
        by_cases hneg : e < 0
        · simp only [Option.map_some, exponentBytes, exponentText, hneg, decide_true, if_true]
          rfl
        · simp only [Option.map_some, exponentBytes, exponentText, hneg, decide_false, if_false]
          rfl
  rw [bytesOf_append, bytesOf_append, ← hfraction, ← hexponent]
  rfl

theorem valid_ofChars (hwhole : DigitChars whole) (hstart : whole = ['0'] ∨ Leads whole)
    (hfraction : forall ds : List Char, fraction = some ds -> ds ≠ [] ∧ DigitChars ds)
    (hexponent : forall e : Int, exponent = some e -> e.natAbs < 2 ^ 31) :
    (ofChars whole fraction exponent).Valid := by
  constructor
  · exact digits_bytesOf hwhole
  · rcases hstart with rfl | ⟨c, rest, rfl, hc⟩
    · exact Or.inl rfl
    · right
      have hdigit := toNat_bounds_of_isDigit (hwhole c List.mem_cons_self)
      refine ⟨asciiByte c, bytesOf rest, ?_, ?_⟩
      · change bytesOf (c :: rest) = _
        rw [bytesOf_cons, utf8EncodeChar_of_ascii (by omega)]
        rfl
      · intro hzero
        have hvalue := toNat_asciiByte (show c.toNat < 128 by omega)
        rw [hzero] at hvalue
        exact hc (Char.toNat_inj.mp hvalue.symm)
  · intro ds hds
    rcases Option.map_eq_some_iff.mp hds with ⟨cs, hcs, rfl⟩
    rcases hfraction cs hcs with ⟨hne, hdigits⟩
    refine ⟨?_, digits_bytesOf hdigits⟩
    apply List.ne_nil_of_length_pos
    rw [length_bytesOf_digits hdigits]
    exact List.length_pos_iff.mpr hne
  · intro negative ds hds
    rcases Option.map_eq_some_iff.mp hds with ⟨e, he, hpair⟩
    cases hpair
    have hdigits := digitChars_toDigits e.natAbs
    refine ⟨?_, digits_bytesOf hdigits, ?_⟩
    · apply List.ne_nil_of_length_pos
      rw [length_bytesOf_digits hdigits]
      exact Nat.length_toDigits_pos
    · rw [digitsValue_bytesOf hdigits, decimalValue_toDigits]
      exact hexponent e he

theorem coefficient_ofChars (exponent : Option Int) (hwhole : DigitChars whole)
    (hfraction : forall ds : List Char, fraction = some ds -> DigitChars ds) :
    (ofChars whole fraction exponent).coefficient =
      decimalValue (whole ++ fraction.getD []) := by
  have hdigits : DigitChars (fraction.getD []) := by
    cases fraction with
    | none =>
        intro c hmem
        cases hmem
    | some ds => exact hfraction ds rfl
  have hbytes : (fraction.map bytesOf).getD [] = bytesOf (fraction.getD []) := by
    cases fraction <;> rfl
  rw [← digitsValue_bytesOf (hwhole.append hdigits), bytesOf_append, ← hbytes]
  rfl

theorem scale_ofChars (whole : List Char) (exponent : Option Int)
    (hfraction : forall ds : List Char, fraction = some ds -> DigitChars ds) :
    (ofChars whole fraction exponent).scale =
      exponent.getD 0 - (fraction.getD []).length := by
  have hlength : ((fraction.map bytesOf).getD []).length = (fraction.getD []).length := by
    cases fraction with
    | none => rfl
    | some ds => exact length_bytesOf_digits (hfraction ds rfl)
  have hexponent : writtenExponent (exponent.map fun e =>
      (decide (e < 0), bytesOf (Nat.toDigits 10 e.natAbs))) = exponent.getD 0 := by
    cases exponent with
    | none => rfl
    | some e =>
        simp only [Option.map_some, writtenExponent, Option.getD_some,
          digitsValue_bytesOf (digitChars_toDigits e.natAbs), decimalValue_toDigits,
          decide_eq_true_eq]
        split <;> omega
  rw [← hlength, ← hexponent]
  rfl

end OfChars

end Literal

/-!
## Layouts of floats
-/

open Literal

def Pointed (text : List Char) (v : ℚ) : Prop :=
  exists whole fraction : List Char,
    text = whole ++ fractionText (some fraction) ∧
      DigitChars whole ∧ (whole = ['0'] ∨ Leads whole) ∧
      fraction ≠ [] ∧ DigitChars fraction ∧
      (decimalValue (whole ++ fraction) : ℚ) * 10 ^ (-(fraction.length : Int)) = v

section Pointed

variable {ds : List Char}

theorem pointed_below (hds : DigitChars ds) (hleads : Leads ds) (k : Nat) :
    Pointed ('0' :: '.' :: (List.replicate k '0' ++ ds))
      (decimalValue ds * 10 ^ (-(k : Int) - ds.length)) := by
  have hne : ds ≠ [] := by
    rcases hleads with ⟨c, rest, rfl, _⟩
    exact List.cons_ne_nil c rest
  have hvalue : decimalValue (['0'] ++ (List.replicate k '0' ++ ds)) = decimalValue ds := by
    have hzeros : decimalValue (['0'] ++ List.replicate k '0') = 0 := decimalValue_zeros (k + 1)
    rw [← List.append_assoc, decimalValue_append, hzeros, Nat.zero_mul, Nat.zero_add]
  have hscale : -((List.replicate k '0' ++ ds).length : Int) = -(k : Int) - ds.length := by
    rw [List.length_append, List.length_replicate]
    omega
  refine ⟨['0'], List.replicate k '0' ++ ds, rfl, digitChars_zeros 1, Or.inl rfl,
    List.append_ne_nil_of_right_ne_nil _ hne, (digitChars_zeros k).append hds, ?_⟩
  rw [hvalue, hscale]

theorem pointed_padded (hds : DigitChars ds) (hleads : Leads ds) (k : Nat) :
    Pointed (ds ++ List.replicate k '0' ++ ['.', '0']) (decimalValue ds * 10 ^ (k : Int)) := by
  have hvalue : decimalValue (ds ++ List.replicate k '0' ++ ['0']) =
      decimalValue ds * 10 ^ k * 10 := by
    have hzero : decimalValue ['0'] = 0 := decimalValue_zeros 1
    rw [decimalValue_append, decimalValue_append, decimalValue_zeros, hzero,
      List.length_replicate, List.length_singleton, Nat.pow_one, Nat.add_zero, Nat.add_zero]
  refine ⟨ds ++ List.replicate k '0', ['0'], rfl, hds.append (digitChars_zeros k),
    Or.inr (hleads.append _), List.cons_ne_nil _ _, digitChars_zeros 1, ?_⟩
  rw [hvalue, zpow_natCast, List.length_singleton, Nat.cast_one, zpow_neg_one]
  push_cast
  field_simp

theorem pointed_within (hds : DigitChars ds) (hleads : Leads ds) {p : Nat} (hpos : 0 < p)
    (hlength : p < ds.length) :
    Pointed (ds.take p ++ '.' :: ds.drop p) (decimalValue ds * 10 ^ ((p : Int) - ds.length)) := by
  have hrest : -((ds.drop p).length : Int) = p - ds.length := by
    rw [List.length_drop]
    omega
  have hleadsWhole : Leads (ds.take p) := by
    rcases hleads with ⟨c, more, rfl, hc⟩
    cases p with
    | zero => exact absurd hpos (Nat.lt_irrefl 0)
    | succ p => exact ⟨c, more.take p, rfl, hc⟩
  refine ⟨ds.take p, ds.drop p, rfl, ?_, Or.inr hleadsWhole, ?_, ?_, ?_⟩
  · intro c hmem
    exact hds c (List.mem_of_mem_take hmem)
  · apply List.ne_nil_of_length_pos
    rw [List.length_drop]
    exact Nat.sub_pos_of_lt hlength
  · intro c hmem
    exact hds c (List.mem_of_mem_drop hmem)
  · rw [List.take_append_drop, hrest]

theorem pointed_placePoint (hds : DigitChars ds) (hleads : Leads ds) (point : Int) :
    Pointed (placePoint ds point) (decimalValue ds * 10 ^ (point - ds.length)) := by
  unfold placePoint
  by_cases hpoint : point ≤ 0
  · obtain ⟨k, hk⟩ := Int.eq_ofNat_of_zero_le (show 0 ≤ -point by omega)
    have hbelow := pointed_below hds hleads k
    rw [← hk, neg_neg] at hbelow
    rw [if_pos hpoint, hk, Int.toNat_natCast]
    exact hbelow
  · obtain ⟨p, hp⟩ := Int.eq_ofNat_of_zero_le (show 0 ≤ point by omega)
    rw [if_neg hpoint, hp, Int.toNat_natCast]
    dsimp only
    cases hdrop : ds.drop p with
    | nil =>
        have hlength : ds.length ≤ p := List.drop_eq_nil_iff.mp hdrop
        have hscale : ((p - ds.length : Nat) : Int) = p - ds.length := by omega
        have hpadded := pointed_padded hds hleads (p - ds.length)
        rw [hscale] at hpadded
        rw [List.take_of_length_le hlength]
        exact hpadded
    | cons next rest =>
        have hlength : p < ds.length := by
          by_contra hle
          rw [List.drop_of_length_le (Nat.le_of_not_lt hle)] at hdrop
          cases hdrop
        have hpadding : p - (ds.take p).length = 0 := by
          rw [List.length_take]
          omega
        have hwithin := pointed_within hds hleads (show 0 < p by omega) hlength
        rw [hdrop] at hwithin
        rw [hpadding, List.replicate_zero, List.append_nil]
        exact hwithin

end Pointed

theorem scientific_eq {ds : List Char} (hds : DigitChars ds) (hleads : Leads ds) (e : Int) :
    exists (whole : List Char) (fraction : Option (List Char)),
      scientific FloatNotation.json ds e =
          whole ++ fractionText fraction ++ exponentText (some e) ∧
        DigitChars whole ∧ (whole = ['0'] ∨ Leads whole) ∧
        (forall f : List Char, fraction = some f -> f ≠ [] ∧ DigitChars f) ∧
        (decimalValue (whole ++ fraction.getD []) : ℚ) *
            10 ^ (e - (fraction.getD []).length) =
          decimalValue ds * 10 ^ (e + 1 - ds.length) := by
  rcases hleads with ⟨first, rest, rfl, hfirst⟩
  have hwhole : DigitChars [first] := by
    intro c hmem
    exact hds c (List.mem_cons.mpr (Or.inl (List.mem_singleton.mp hmem)))
  cases rest with
  | nil =>
      refine ⟨[first], none, ?_, hwhole, Or.inr ⟨first, [], rfl, hfirst⟩, ?_, ?_⟩
      · rfl
      · intro f hf
        cases hf
      · have hscale : e - (([] : List Char).length : Int) = e + 1 - ([first].length : Int) := by
          rw [List.length_nil, List.length_singleton]
          omega
        rw [Option.getD_none, List.append_nil, hscale]
  | cons next rest =>
      refine ⟨[first], some (next :: rest), ?_, hwhole, Or.inr ⟨first, [], rfl, hfirst⟩, ?_, ?_⟩
      · rfl
      · intro f hf
        cases hf
        refine ⟨List.cons_ne_nil _ _, ?_⟩
        intro c hmem
        exact hds c (List.mem_cons_of_mem first hmem)
      · have hscale : e - ((next :: rest).length : Int) =
            e + 1 - ((first :: next :: rest).length : Int) := by
          simp only [List.length_cons]
          omega
        rw [Option.getD_some, hscale]
        rfl

/-!
## Rounding literals
-/

/-- The shortcuts for very large and very small numbers are not taken for what
rounds to a positive double. -/
theorem nearestReal_eq {negative : Bool} {n magnitude : Nat} {e : Int} (hpos : 0 < magnitude)
    (hfinite : magnitude < BinaryFormat.binary64.infinity)
    (h : BinaryFormat.binary64.RoundsTo (n * 10 ^ e) magnitude) :
    nearestReal negative n e = Binary64.ofMagnitude negative magnitude := by
  rcases BinaryFormat.range_of_roundsTo hpos hfinite h with ⟨hlow, hhigh⟩
  have hn : 0 < n := by
    rcases Nat.eq_zero_or_pos n with hzero | hpos
    · rw [hzero, Nat.cast_zero, zero_mul] at hlow
      exact absurd hlow (not_lt.mpr (ten_zpow_pos _).le)
    · exact hpos
  rcases value_bounds hn e with ⟨hbelow, habove⟩
  have hsmall : -400 < (Nat.toDigits 10 n).length + e :=
    (zpow_lt_zpow_iff_right₀ (by norm_num)).mp (hlow.trans habove)
  have hlarge : (Nat.toDigits 10 n).length + e - 1 < 400 :=
    (zpow_lt_zpow_iff_right₀ (by norm_num)).mp (hbelow.trans_lt hhigh)
  unfold nearestReal
  dsimp only
  rw [if_neg (by simp only [Bool.or_eq_true, decide_eq_true_eq]; omega), if_neg (by omega)]
  by_cases he : 0 ≤ e
  · obtain ⟨k, rfl⟩ := Int.eq_ofNat_of_zero_le he
    have hquotient : (n : ℚ) * 10 ^ (k : Int) = ((n * 10 ^ k : Nat) : ℚ) / ((1 : Nat) : ℚ) := by
      rw [zpow_natCast, Nat.cast_one, div_one]
      push_cast
      rfl
    rw [hquotient] at h
    rw [if_pos he, Int.toNat_natCast, Nat.pow_eq, Binary64.ofRatio,
      BinaryFormat.binary64.nearest_eq_of_roundsTo (Nat.mul_pos hn (Nat.pow_pos (by decide)))
        Nat.one_pos (by decide) hfinite h]
  · obtain ⟨k, hk⟩ := Int.eq_ofNat_of_zero_le (show 0 ≤ -e by omega)
    have he' : e = -(k : Int) := by omega
    have hquotient : (n : ℚ) * 10 ^ e = (n : ℚ) / ((10 ^ k : Nat) : ℚ) := by
      rw [he', zpow_neg, zpow_natCast, Nat.cast_pow, Nat.cast_ofNat, div_eq_mul_inv]
    rw [hquotient] at h
    rw [if_neg he, hk, Int.toNat_natCast, Nat.pow_eq, Binary64.ofRatio,
      BinaryFormat.binary64.nearest_eq_of_roundsTo hn (Nat.pow_pos (by decide)) (by decide)
        hfinite h]

/-!
## Numbers as literals
-/

def signBytes (negative : Bool) : List UInt8 :=
  if negative then [0x2d] else []

/-- The numbers that documents hold: natural ones, negative ones, and floats that
are finite. -/
def Proper : JsonNumber -> Prop
  | JsonNumber.natural _ => True
  | JsonNumber.negative i => i < 0
  | JsonNumber.real x => x.isFinite = true

theorem start_toDigits (n : Nat) :
    Nat.toDigits 10 n = ['0'] ∨ Leads (Nat.toDigits 10 n) := by
  rcases Nat.eq_zero_or_pos n with hzero | hpos
  · left
    rw [hzero, Nat.toDigits_zero]
  · exact Or.inr (leads_toDigits hpos)

theorem number_integer (negative : Bool) (n : Nat) :
    (ofChars (Nat.toDigits 10 n) none none).number negative = integerNumber negative n := by
  have hvalue := digitsValue_bytesOf (digitChars_toDigits n)
  rw [decimalValue_toDigits] at hvalue
  change integerNumber negative (digitsValue (bytesOf (Nat.toDigits 10 n))) = _
  rw [hvalue]

theorem valid_integer (n : Nat) : (ofChars (Nat.toDigits 10 n) none none).Valid := by
  apply valid_ofChars (digitChars_toDigits n) (start_toDigits n)
  · intro ds h
    cases h
  · intro e h
    cases h

theorem bytes_integer (n : Nat) :
    (ofChars (Nat.toDigits 10 n) none none).bytes = bytesOf (Nat.toDigits 10 n) := by
  rw [bytes_ofChars]
  change bytesOf (Nat.toDigits 10 n ++ [] ++ []) = _
  rw [List.append_nil, List.append_nil]

theorem number_real {x : Binary64} (hfinite : x.isFinite = true) (hpos : 0 < x.magnitude)
    {whole : List Char} {fraction : Option (List Char)} {exponent : Option Int}
    (hreal : fraction.isSome = true ∨ exponent.isSome = true) (hwhole : DigitChars whole)
    (hfraction : forall ds : List Char, fraction = some ds -> ds ≠ [] ∧ DigitChars ds)
    (hvalue : (decimalValue (whole ++ fraction.getD []) : ℚ) *
        10 ^ (exponent.getD 0 - (fraction.getD []).length) = (x.shortest Tie.toEven).value) :
    (ofChars whole fraction exponent).number x.negative = JsonNumber.real x := by
  have hdigits : forall ds : List Char, fraction = some ds -> DigitChars ds := by
    intro ds hds
    exact (hfraction ds hds).right
  have hrounds := Binary64.roundsTo_shortest hpos Tie.toEven
  rw [← hvalue, ← coefficient_ofChars exponent hwhole hdigits,
    ← scale_ofChars whole exponent hdigits] at hrounds
  have hkind : (fraction.isNone && exponent.isNone) = false := by
    cases fraction with
    | some ds => rfl
    | none =>
        cases exponent with
        | some e => rfl
        | none =>
            rcases hreal with h | h
            · cases h
            · cases h
  rw [Literal.number, nearestReal_eq hpos (of_decide_eq_true hfinite) hrounds,
    Binary64.ofMagnitude_self]
  change (if ((fraction.map bytesOf).isNone && (exponent.map _).isNone) = true then _ else _) = _
  rw [Option.isNone_map, Option.isNone_map, hkind, if_neg Bool.false_ne_true]

theorem point_bounds {x : Binary64} (hfinite : x.isFinite = true) (hpos : 0 < x.magnitude) :
    0 < (x.shortest Tie.toEven).digits ∧ -400 < (x.shortest Tie.toEven).point ∧
      (x.shortest Tie.toEven).point - 1 < 400 := by
  have hrounds := Binary64.roundsTo_shortest hpos Tie.toEven
  rcases BinaryFormat.range_of_roundsTo hpos (of_decide_eq_true hfinite) hrounds with
    ⟨hlow, hhigh⟩
  have hdigits : 0 < (x.shortest Tie.toEven).digits := by
    rcases Nat.eq_zero_or_pos (x.shortest Tie.toEven).digits with hzero | hpos
    · rw [Decimal.value, hzero, Nat.cast_zero, zero_mul] at hlow
      exact absurd hlow (not_lt.mpr (ten_zpow_pos _).le)
    · exact hpos
  rcases value_bounds hdigits (x.shortest Tie.toEven).exponent with ⟨hbelow, habove⟩
  have hsmall := (zpow_lt_zpow_iff_right₀ (by norm_num)).mp (hlow.trans habove)
  have hlarge := (zpow_lt_zpow_iff_right₀ (by norm_num)).mp (hbelow.trans_lt hhigh)
  refine ⟨hdigits, ?_, ?_⟩
  · rw [Decimal.point]
    omega
  · rw [Decimal.point]
    omega

theorem text_eq {x : Binary64} (hfinite : x.isFinite = true) :
    (x.text FloatNotation.json).toList =
      (if x.negative then ['-'] else []) ++
        if FloatNotation.json.positional ((x.shortest Tie.toEven).point - 1) then
          placePoint (significantDigits (x.shortest Tie.toEven).digits)
            (x.shortest Tie.toEven).point
        else
          scientific FloatNotation.json (significantDigits (x.shortest Tie.toEven).digits)
            ((x.shortest Tie.toEven).point - 1) := by
  have hnumber : x.isNaN = false := by
    have hlt : x.magnitude < BinaryFormat.binary64.infinity := of_decide_eq_true hfinite
    exact decide_eq_false (Nat.not_lt.mpr hlt.le)
  have htie : FloatNotation.json.tie = Tie.toEven := rfl
  unfold Binary64.text
  rw [hnumber, hfinite, htie]
  simp only [Bool.false_eq_true, if_false, Bool.not_true, String.toList_ofList, Decimal.point,
    sub_add_cancel]
  rfl

theorem bytesOf_sign (negative : Bool) :
    bytesOf (if negative then ['-'] else []) = signBytes negative := by
  cases negative <;> rfl

theorem exists_literal_real {x : Binary64} (hfinite : x.isFinite = true) :
    exists l : Literal,
      bytesOf (x.text FloatNotation.json).toList = signBytes x.negative ++ l.bytes ∧
        l.Valid ∧ l.number x.negative = JsonNumber.real x := by
  rcases Nat.eq_zero_or_pos x.magnitude with hzero | hpos
  · have hshortest : x.shortest Tie.toEven = { digits := 0, exponent := 0 } := by
      rw [Binary64.shortest, if_pos hzero]
    have hcoefficient : (ofChars ['0'] (some ['0']) none).coefficient = 0 := rfl
    refine ⟨ofChars ['0'] (some ['0']) none, ?_, ?_, ?_⟩
    · rw [text_eq hfinite, hshortest, bytesOf_append, bytesOf_sign]
      rfl
    · apply valid_ofChars (digitChars_zeros 1) (Or.inl rfl)
      · intro f hf
        cases hf
        exact ⟨List.cons_ne_nil _ _, digitChars_zeros 1⟩
      · intro e he
        cases he
    · change JsonNumber.real (nearestReal x.negative _ _) = _
      rw [hcoefficient, nearestReal, if_pos (by simp), ← hzero, Binary64.ofMagnitude_self]
  · rcases point_bounds hfinite hpos with ⟨hdigits, hsmall, hlarge⟩
    have hvalue := Decimal.value_eq hdigits
    rcases toDigits_eq_significant hdigits with ⟨_, _, hleads⟩
    have hds := digitChars_significantDigits hdigits
    rw [text_eq hfinite, bytesOf_append, bytesOf_sign]
    split
    · rcases pointed_placePoint hds hleads (x.shortest Tie.toEven).point with
        ⟨whole, fraction, htext, hwhole, hstart, hne, hfraction, hplaced⟩
      have hparts : forall f : List Char, some fraction = some f -> f ≠ [] ∧ DigitChars f := by
        intro f hf
        cases hf
        exact ⟨hne, hfraction⟩
      refine ⟨ofChars whole (some fraction) none, ?_, ?_, ?_⟩
      · rw [bytes_ofChars, htext]
        change _ = _ ++ bytesOf (whole ++ fractionText (some fraction) ++ [])
        rw [List.append_nil]
      · apply valid_ofChars hwhole hstart hparts
        intro e he
        cases he
      · apply number_real hfinite hpos (Or.inl rfl) hwhole hparts
        rw [hvalue, ← hplaced]
        change _ * (10 : ℚ) ^ ((0 : Int) - fraction.length) = _
        rw [zero_sub]
        rfl
    · rcases scientific_eq hds hleads ((x.shortest Tie.toEven).point - 1) with
        ⟨whole, fraction, htext, hwhole, hstart, hparts, hplaced⟩
      refine ⟨ofChars whole fraction (some ((x.shortest Tie.toEven).point - 1)), ?_, ?_, ?_⟩
      · rw [bytes_ofChars, htext]
      · apply valid_ofChars hwhole hstart hparts
        intro e he
        cases he
        omega
      · apply number_real hfinite hpos (Or.inr rfl) hwhole hparts
        rw [hvalue, Option.getD_some, hplaced, sub_add_cancel]

/-- Every number that a document holds is written as a literal of itself. -/
theorem exists_literal {n : JsonNumber} (hn : Proper n) :
    exists (negative : Bool) (l : Literal),
      bytesOf n.write = signBytes negative ++ l.bytes ∧ l.Valid ∧ l.number negative = n := by
  cases n with
  | natural n =>
      refine ⟨false, ofChars (Nat.toDigits 10 n.toNat) none none, ?_, valid_integer n.toNat, ?_⟩
      · rw [bytes_integer]
        rfl
      · rw [number_integer, integerNumber, if_neg Bool.false_ne_true,
          if_pos (UInt64.toNat_lt n), UInt64.ofNat_toNat]
  | negative i =>
      have hi : i.toInt < 0 := Int64.lt_iff_toInt_lt.mp hn
      have hlow := Int64.le_toInt i
      have hvalue : -(i.toInt.natAbs : Int) = i.toInt := by omega
      have hrange : (decide (0 < i.toInt.natAbs) && decide (i.toInt.natAbs ≤ 0x8000000000000000)) =
          true := by
        rw [Bool.and_eq_true, decide_eq_true_eq, decide_eq_true_eq]
        omega
      refine ⟨true, ofChars (Nat.toDigits 10 i.toInt.natAbs) none none, ?_,
        valid_integer i.toInt.natAbs, ?_⟩
      · rw [bytes_integer]
        rfl
      · rw [number_integer, integerNumber, if_pos rfl, if_pos hrange, hvalue, Int64.ofInt_toInt]
  | real x =>
      rcases exists_literal_real hn with ⟨l, hbytes, hvalid, hnumber⟩
      exact ⟨x.negative, l, hbytes, hvalid, hnumber⟩

end Json
end Troupe
