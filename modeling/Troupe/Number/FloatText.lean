import Troupe.Number.Shortest

/-!
# Float notations

The digits of a float come from its shortest decimal; a notation decides how they
are laid out.  Three notations are in use: the one of JSON text, the one of
diagnostics, and a purely positional one for error messages.
-/

namespace Troupe
namespace Number

/-- How the digits of a float are laid out.  The decimal exponent `e` of
`d.ddd * 10 ^ e` is written out positionally from `smallest` up to but not
including `largest`; a missing bound does not bound. -/
structure FloatNotation where
  smallest : Option Int
  largest : Option Int
  plusSign : Bool
  tie : Tie
deriving DecidableEq, Repr

namespace FloatNotation

/-- JSON text: positional from `0.00001` to below `1e+16`. -/
def json : FloatNotation :=
  { smallest := some (-5), largest := some 16, plusSign := true, tie := Tie.toEven }

/-- Diagnostics: positional from `0.0001` to below `1e16`. -/
def diagnostic : FloatNotation :=
  { smallest := some (-4), largest := some 16, plusSign := false, tie := Tie.up }

def plain : FloatNotation :=
  { smallest := none, largest := none, plusSign := false, tie := Tie.up }

def positional (style : FloatNotation) (e : Int) : Bool :=
  style.smallest.all (· ≤ e) && style.largest.all (e < ·)

end FloatNotation

def significantDigits (n : Nat) : List Char :=
  match (Nat.toDigits 10 n).reverse.dropWhile (· == '0') with
  | [] => ['0']
  | ds => ds.reverse

/-- Digits around a decimal point that follows the first `point` of them, with at
least one digit on either side. -/
def placePoint (digits : List Char) (point : Int) : List Char :=
  if point ≤ 0 then
    '0' :: '.' :: (List.replicate (-point).toNat '0' ++ digits)
  else
    let whole := digits.take point.toNat
    let padded := whole ++ List.replicate (point.toNat - whole.length) '0'
    match digits.drop point.toNat with
    | [] => padded ++ ['.', '0']
    | rest => padded ++ '.' :: rest

/-- One digit before the point, no needless point, and the exponent after `e`. -/
def scientific (style : FloatNotation) (digits : List Char) (e : Int) : List Char :=
  let mantissa :=
    match digits with
    | d :: next :: rest => d :: '.' :: next :: rest
    | short => short
  let sign := if e < 0 then ['-'] else if style.plusSign then ['+'] else []
  mantissa ++ 'e' :: (sign ++ Nat.toDigits 10 e.natAbs)

/-- The text of a float in a notation.  Only diagnostics ever meet a float that
is not finite. -/
def Binary64.text (x : Binary64) (style : FloatNotation) : String :=
  let sign := if x.negative then ['-'] else []
  if x.isNaN then "NaN"
  else if !x.isFinite then String.ofList (sign ++ "inf".toList)
  else
    let decimal := x.shortest style.tie
    let all := Nat.toDigits 10 decimal.digits
    let e := decimal.exponent + all.length - 1
    let digits := significantDigits decimal.digits
    String.ofList <| sign ++
      if style.positional e then placePoint digits (e + 1) else scientific style digits e

end Number
end Troupe
