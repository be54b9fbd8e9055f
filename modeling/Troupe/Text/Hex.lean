/-!
# Hexadecimal digits

Lower-case hexadecimal text of numbers and of byte strings, and the way back.
-/

namespace Troupe
namespace Text

def hexDigit (n : Nat) : Char :=
  "0123456789abcdef".toList.getD (n % 16) '0'

/-- The value of a digit of either case. -/
def hexValue? (c : Char) : Option Nat :=
  if '0' ≤ c && c ≤ '9' then some (c.toNat - '0'.toNat)
  else if 'a' ≤ c && c ≤ 'f' then some (c.toNat - 'a'.toNat + 10)
  else if 'A' ≤ c && c ≤ 'F' then some (c.toNat - 'A'.toNat + 10)
  else none

/-- The last `width` hexadecimal digits of a number. -/
def hexFixed : Nat -> Nat -> List Char
  | 0, _ => []
  | width + 1, n => hexFixed width (n / 16) ++ [hexDigit n]

def hexBytes (bytes : List UInt8) : String :=
  String.ofList (bytes.flatMap fun b => hexFixed 2 b.toNat)

def hexNumber? (digits : List Char) : Option Nat :=
  digits.foldlM (fun n c => (hexValue? c).map (n * 16 + ·)) 0

/-- The bytes that pairs of digits write; `none` for an odd count or a character
that is no digit. -/
def bytesOfHex? : List Char -> Option (List UInt8)
  | [] => some []
  | [_] => none
  | a :: b :: rest => do
      let high <- hexValue? a
      let low <- hexValue? b
      let bytes <- bytesOfHex? rest
      return UInt8.ofNat (high * 16 + low) :: bytes

end Text
end Troupe
