import Mathlib.Logic.Function.Basic
import Troupe.Text.Base64

/-!
# Base64 and back

Bytes can be read back from their base64 text: the characters of the alphabet stand for
sextets, and four sextets make three bytes.  The padding only fills up the last group, so
that the text is as long as the number of groups says.
-/

namespace Troupe
namespace Text

def sextetOf? (c : Char) : Option Nat :=
  base64Alphabet.idxOf? c

theorem sextetOf?_base64Char {sextet : Nat} (h : sextet < 64) :
    sextetOf? (base64Char sextet) = some sextet := by
  have hall : forall n : Fin 64, sextetOf? (base64Char n.val) = some n.val := by
    decide +kernel
  exact hall ⟨sextet, h⟩

theorem sextetOf?_pad : sextetOf? '=' = none := by decide

/-- The bytes that sextets make up; bits that fill up the last sextet are left out. -/
def bytesOfSextets : List Nat -> List UInt8
  | a :: b :: c :: d :: rest =>
      UInt8.ofNat (a * 4 + b / 16) :: UInt8.ofNat (b % 16 * 16 + c / 4) ::
        UInt8.ofNat (c % 4 * 64 + d) :: bytesOfSextets rest
  | [a, b, c] => [UInt8.ofNat (a * 4 + b / 16), UInt8.ofNat (b % 16 * 16 + c / 4)]
  | [a, b] => [UInt8.ofNat (a * 4 + b / 16)]
  | _ => []

def bytesOfBase64 (text : String) : List UInt8 :=
  bytesOfSextets (text.toList.filterMap sextetOf?)

theorem ofNat_eq_of_toNat {n : Nat} {b : UInt8} (h : n = b.toNat) : UInt8.ofNat n = b := by
  rw [h, UInt8.ofNat_toNat]

theorem filterMap_base64Char {sextet : Nat} (h : sextet < 64) (rest : List Char) :
    (base64Char sextet :: rest).filterMap sextetOf? = sextet :: rest.filterMap sextetOf? :=
  List.filterMap_cons_some (sextetOf?_base64Char h)

theorem bytesOfSextets_base64Chars (bytes : List UInt8) :
    bytesOfSextets ((base64Chars bytes).filterMap sextetOf?) = bytes := by
  induction bytes using base64Chars.induct with
  | case1 => rfl
  | case2 a =>
      have ha := a.toNat_lt
      rw [base64Chars, filterMap_base64Char (by omega), filterMap_base64Char (by omega)]
      simp only [List.filterMap_cons_none sextetOf?_pad, List.filterMap_nil, bytesOfSextets]
      rw [ofNat_eq_of_toNat (b := a) (by omega)]
  | case3 a b =>
      have ha := a.toNat_lt
      have hb := b.toNat_lt
      rw [base64Chars, filterMap_base64Char (by omega), filterMap_base64Char (by omega),
        filterMap_base64Char (by omega)]
      simp only [List.filterMap_cons_none sextetOf?_pad, List.filterMap_nil, bytesOfSextets]
      rw [ofNat_eq_of_toNat (b := a) (by omega), ofNat_eq_of_toNat (b := b) (by omega)]
  | case4 a b c rest ih =>
      have ha := a.toNat_lt
      have hb := b.toNat_lt
      have hc := c.toNat_lt
      rw [base64Chars, filterMap_base64Char (by omega), filterMap_base64Char (by omega),
        filterMap_base64Char (by omega), filterMap_base64Char (by omega), bytesOfSextets, ih]
      rw [ofNat_eq_of_toNat (b := a) (by omega), ofNat_eq_of_toNat (b := b) (by omega),
        ofNat_eq_of_toNat (b := c) (by omega)]

/-- Bytes are read back from their base64 text. -/
theorem bytesOfBase64_base64 (bytes : List UInt8) : bytesOfBase64 (base64 bytes) = bytes := by
  rw [bytesOfBase64, base64, String.toList_ofList, bytesOfSextets_base64Chars]

example : base64 [0x66, 0x6f] = "Zm8=" ∧ bytesOfBase64 "Zm8=" = [0x66, 0x6f] := by decide

theorem base64_injective : Function.Injective base64 :=
  Function.LeftInverse.injective bytesOfBase64_base64

theorem length_base64 (bytes : List UInt8) :
    (base64 bytes).length = (bytes.length + 2) / 3 * 4 := by
  rw [base64, String.length_ofList]
  induction bytes using base64Chars.induct with
  | case1 => rfl
  | case2 a => simp [base64Chars]
  | case3 a b => simp [base64Chars]
  | case4 a b c rest ih =>
      rw [base64Chars]
      simp only [List.length_cons, ih]
      omega

end Text
end Troupe
