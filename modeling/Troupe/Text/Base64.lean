/-!
# Base64

The standard alphabet with padding: three bytes become four characters, and a
last group of one or two bytes is filled up with `=`.
-/

namespace Troupe
namespace Text

def base64Alphabet : List Char :=
  "ABCDEFGHIJKLMNOPQRSTUVWXYZabcdefghijklmnopqrstuvwxyz0123456789+/".toList

def base64Char (sextet : Nat) : Char :=
  base64Alphabet.getD sextet '='

def base64Chars : List UInt8 -> List Char
  | [] => []
  | [a] =>
      let n := a.toNat * 16
      [base64Char (n / 64), base64Char (n % 64), '=', '=']
  | [a, b] =>
      let n := (a.toNat * 256 + b.toNat) * 4
      [base64Char (n / 4096), base64Char (n / 64 % 64), base64Char (n % 64), '=']
  | a :: b :: c :: rest =>
      let n := (a.toNat * 256 + b.toNat) * 256 + c.toNat
      base64Char (n / 262144) :: base64Char (n / 4096 % 64) :: base64Char (n / 64 % 64) ::
        base64Char (n % 64) :: base64Chars rest

def base64 (bytes : List UInt8) : String :=
  String.ofList (base64Chars bytes)

end Text
end Troupe
