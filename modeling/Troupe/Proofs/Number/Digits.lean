import Mathlib.Data.List.Induction
import Mathlib.Data.List.TakeWhile
import Troupe.Number.FloatText
import Troupe.Proofs.Number.Shortest

/-!
# Decimal digits

What the layouts of floats need to know of the digits of a number: they are
digits, the first one is not a zero, and zeros cut off at the end are powers of
ten.
-/

namespace Troupe
namespace Number

def DigitChars (cs : List Char) : Prop :=
  forall c : Char, c ∈ cs -> c.isDigit = true

theorem DigitChars.append {cs cs' : List Char} (h : DigitChars cs) (h' : DigitChars cs') :
    DigitChars (cs ++ cs') := by
  intro c hmem
  rcases List.mem_append.mp hmem with hmem | hmem
  · exact h c hmem
  · exact h' c hmem

theorem toNat_bounds_of_isDigit {c : Char} (h : c.isDigit = true) :
    48 ≤ c.toNat ∧ c.toNat ≤ 57 := by
  unfold Char.isDigit at h
  rw [Bool.and_eq_true, decide_eq_true_eq, decide_eq_true_eq] at h
  exact ⟨UInt32.le_iff_toNat_le.mp h.left, UInt32.le_iff_toNat_le.mp h.right⟩

theorem digitChar_of_isDigit {c : Char} (h : c.isDigit = true) :
    c.toNat - 48 < 10 ∧ (c.toNat - 48).digitChar = c := by
  have hbounds := toNat_bounds_of_isDigit h
  have hlt : c.toNat - 48 < 10 := by omega
  have hchars : forall d : Nat, d < 10 -> d.digitChar = Char.ofNat (d + 48) := by decide
  refine ⟨hlt, ?_⟩
  rw [hchars _ hlt, Nat.sub_add_cancel hbounds.left, Char.ofNat_toNat]

theorem digitChars_zeros (k : Nat) : DigitChars (List.replicate k '0') := by
  intro c hmem
  rw [List.eq_of_mem_replicate hmem]
  rfl

theorem digitChars_toDigits (n : Nat) : DigitChars (Nat.toDigits 10 n) := by
  intro c hmem
  exact Nat.isDigit_of_mem_toDigits (by decide) (by decide) hmem

def decimalValue (cs : List Char) : Nat :=
  Nat.ofDigitChars 10 cs 0

theorem decimalValue_append (cs cs' : List Char) :
    decimalValue (cs ++ cs') = decimalValue cs * 10 ^ cs'.length + decimalValue cs' := by
  rw [decimalValue, Nat.ofDigitChars_append, Nat.ofDigitChars_eq_ofDigitChars_zero, Nat.mul_comm]
  rfl

theorem decimalValue_zeros (k : Nat) : decimalValue (List.replicate k '0') = 0 := by
  rw [decimalValue, Nat.ofDigitChars_replicate_zero, Nat.mul_zero]

theorem decimalValue_toDigits (n : Nat) : decimalValue (Nat.toDigits 10 n) = n :=
  Nat.ofDigitChars_ten_toDigits

def Leads (cs : List Char) : Prop :=
  exists (c : Char) (rest : List Char), cs = c :: rest ∧ c ≠ '0'

theorem Leads.append {cs : List Char} (h : Leads cs) (cs' : List Char) : Leads (cs ++ cs') := by
  rcases h with ⟨c, rest, rfl, hc⟩
  exact ⟨c, rest ++ cs', rfl, hc⟩

theorem leads_toDigits {n : Nat} (hn : 0 < n) : Leads (Nat.toDigits 10 n) := by
  induction n using Nat.strongRecOn with
  | ind n ih =>
      by_cases hsmall : n < 10
      · rw [Nat.toDigits_of_lt_base hsmall]
        refine ⟨n.digitChar, [], rfl, ?_⟩
        intro hzero
        have hvalue := Nat.toNat_digitChar_sub_48_of_lt_ten hsmall
        rw [hzero] at hvalue
        exact hn.ne hvalue
      · have hbase : 10 ≤ n := Nat.le_of_not_lt hsmall
        rw [Nat.toDigits_of_base_le (by decide) hbase]
        exact (ih (n / 10) (by omega) (by omega)).append _

theorem toDigits_decimalValue {cs : List Char} (hdigits : DigitChars cs) (hleads : Leads cs) :
    Nat.toDigits 10 (decimalValue cs) = cs := by
  induction cs using List.reverseRecOn with
  | nil =>
      rcases hleads with ⟨_, _, hcons, _⟩
      cases hcons
  | append_singleton front c ih =>
      rcases digitChar_of_isDigit (hdigits c (List.mem_append_right _ List.mem_cons_self)) with
        ⟨hlt, hchar⟩
      have hlast : decimalValue [c] = c.toNat - 48 := by
        simp [decimalValue, Nat.ofDigitChars_cons]
      have hdigit : Nat.toDigits 10 (c.toNat - 48) = [c] := by
        rw [Nat.toDigits_of_lt_base hlt, hchar]
      cases front with
      | nil => rw [List.nil_append, hlast, hdigit]
      | cons first rest =>
          have hfront : Nat.toDigits 10 (decimalValue (first :: rest)) = first :: rest := by
            apply ih (fun d hmem => hdigits d (List.mem_append_left _ hmem))
            rcases hleads with ⟨lead, more, hcons, hlead⟩
            cases hcons
            exact ⟨first, rest, rfl, hlead⟩
          have hpos : 0 < decimalValue (first :: rest) := by
            apply Nat.pos_of_ne_zero
            intro hzero
            rw [hzero, Nat.toDigits_zero] at hfront
            rcases hleads with ⟨lead, more, hcons, hlead⟩
            cases hfront
            cases hcons
            exact hlead rfl
          calc Nat.toDigits 10 (decimalValue (first :: rest ++ [c]))
              = Nat.toDigits 10 (10 * decimalValue (first :: rest) + (c.toNat - 48)) := by
                rw [decimalValue_append, hlast, List.length_singleton, Nat.pow_one, Nat.mul_comm]
            _ = Nat.toDigits 10 (decimalValue (first :: rest)) ++ Nat.toDigits 10 (c.toNat - 48) :=
                (Nat.toDigits_append_toDigits (by decide) hpos hlt).symm
            _ = first :: rest ++ [c] := by rw [hfront, hdigit]

theorem toDigits_bounds {n : Nat} (hn : 0 < n) :
    10 ^ ((Nat.toDigits 10 n).length - 1) ≤ n ∧ n < 10 ^ (Nat.toDigits 10 n).length := by
  have hlength : 0 < (Nat.toDigits 10 n).length := Nat.length_toDigits_pos
  constructor
  · rcases Nat.eq_zero_or_pos ((Nat.toDigits 10 n).length - 1) with hone | hmore
    · rw [hone, Nat.pow_zero]
      exact hn
    · by_contra hlt
      have hle := (Nat.length_toDigits_le_iff (by decide) hmore).mpr (Nat.lt_of_not_le hlt)
      omega
  · exact (Nat.length_toDigits_le_iff (by decide) hlength).mp (Nat.le_refl _)

/-!
## Cutting zeros off
-/

theorem toDigits_eq_significant {n : Nat} (hn : 0 < n) :
    exists k : Nat,
      Nat.toDigits 10 n = significantDigits n ++ List.replicate k '0' ∧
        Leads (significantDigits n) := by
  have hsplit : (Nat.toDigits 10 n).reverse.takeWhile (· == '0') ++
      (Nat.toDigits 10 n).reverse.dropWhile (· == '0') = (Nat.toDigits 10 n).reverse :=
    List.takeWhile_append_dropWhile
  have hzeros : (Nat.toDigits 10 n).reverse.takeWhile (· == '0') =
      List.replicate ((Nat.toDigits 10 n).reverse.takeWhile (· == '0')).length '0' := by
    rw [List.eq_replicate_iff]
    refine ⟨rfl, ?_⟩
    intro c hmem
    have hzero := List.mem_takeWhile_imp (p := (· == '0')) hmem
    exact eq_of_beq hzero
  generalize (Nat.toDigits 10 n).reverse.takeWhile (· == '0') = zeros at hsplit hzeros
  generalize hrest : (Nat.toDigits 10 n).reverse.dropWhile (· == '0') = rest at hsplit
  have hdigits : Nat.toDigits 10 n = rest.reverse ++ List.replicate zeros.length '0' := by
    rw [← List.reverse_reverse (Nat.toDigits 10 n), ← hsplit, List.reverse_append, hzeros,
      List.reverse_replicate, List.length_replicate]
  cases rest with
  | nil =>
      have hvalue := decimalValue_toDigits n
      rw [hdigits, List.reverse_nil, List.nil_append, decimalValue_zeros] at hvalue
      exact absurd hvalue hn.ne
  | cons c rest =>
      have hsignificant : significantDigits n = (c :: rest).reverse := by
        rw [significantDigits, hrest]
      refine ⟨zeros.length, ?_, ?_⟩
      · rw [hsignificant]
        exact hdigits
      · rcases leads_toDigits hn with ⟨first, more, hfirst, hne⟩
        rw [hdigits] at hfirst
        rw [hsignificant]
        cases hreverse : (c :: rest).reverse with
        | nil => exact absurd hreverse (by simp)
        | cons d ds =>
            rw [hreverse] at hfirst
            have hd : d = first := (List.cons.inj hfirst).left
            exact ⟨d, ds, rfl, hd ▸ hne⟩

theorem digitChars_significantDigits {n : Nat} (hn : 0 < n) :
    DigitChars (significantDigits n) := by
  rcases toDigits_eq_significant hn with ⟨k, hdigits, _⟩
  intro c hmem
  apply digitChars_toDigits n c
  rw [hdigits]
  exact List.mem_append_left _ hmem

/-- Where the point of a decimal stands: after that many of its digits. -/
def Decimal.point (decimal : Decimal) : Int :=
  decimal.exponent + (Nat.toDigits 10 decimal.digits).length

theorem Decimal.value_eq {decimal : Decimal} (hpos : 0 < decimal.digits) :
    decimal.value = decimalValue (significantDigits decimal.digits) *
      10 ^ (decimal.point - (significantDigits decimal.digits).length) := by
  rcases toDigits_eq_significant hpos with ⟨k, hdigits, _⟩
  have hvalue := decimalValue_toDigits decimal.digits
  rw [hdigits, decimalValue_append, decimalValue_zeros, Nat.add_zero, List.length_replicate]
    at hvalue
  have hexponent : decimal.point - (significantDigits decimal.digits).length =
      k + decimal.exponent := by
    rw [Decimal.point, hdigits, List.length_append, List.length_replicate]
    omega
  have hcast : (decimal.digits : ℚ) =
      decimalValue (significantDigits decimal.digits) * 10 ^ k := by
    exact_mod_cast hvalue.symm
  rw [hexponent, Decimal.value, zpow_add₀ (by norm_num), zpow_natCast, ← mul_assoc, ← hcast]

theorem value_bounds {n : Nat} (hn : 0 < n) (e : Int) :
    (10 : ℚ) ^ ((Nat.toDigits 10 n).length + e - 1) ≤ n * 10 ^ e ∧
      (n : ℚ) * 10 ^ e < 10 ^ ((Nat.toDigits 10 n).length + e) := by
  have hten := ten_zpow_pos e
  have hlength : 0 < (Nat.toDigits 10 n).length := Nat.length_toDigits_pos
  rcases toDigits_bounds hn with ⟨hlow, hhigh⟩
  constructor
  · have hexponent : ((Nat.toDigits 10 n).length + e - 1 : Int) =
        ((Nat.toDigits 10 n).length - 1 : Nat) + e := by omega
    rw [hexponent, zpow_add₀ (by norm_num), zpow_natCast]
    exact mul_le_mul_of_nonneg_right (by exact_mod_cast hlow) hten.le
  · rw [zpow_add₀ (by norm_num), zpow_natCast]
    exact mul_lt_mul_of_pos_right (by exact_mod_cast hhigh) hten

end Number
end Troupe
