/-!
# Binary floating point by its bits

A float is its bit pattern, so that two floats are the same tree leaf exactly
when their bits agree, not-a-number payloads and the sign of zero included.
Everything numeric is read off the pattern in exact arithmetic: a finite float
is a significand times a power of two, and rounding picks the nearest such value
to a quotient of natural numbers, ties going to the even significand.

## Formats

In every interchange format the magnitude bits of the non-negative finite floats
count those floats in increasing order.  A significand `m` at the exponent `q`
therefore has the magnitude bits `(q + scale) * 2 ^ fractionBits + m`, for
subnormal floats, for normal ones, and also when rounding has carried `m` into
the next binade.
-/

namespace Troupe
namespace Number

/-- An interchange format: the width of the fraction field, the exponent of the
smallest positive float negated, and the all-ones exponent field. -/
structure BinaryFormat where
  fractionBits : Nat
  scale : Nat
  topField : Nat
deriving DecidableEq, Repr

namespace BinaryFormat

def binary16 : BinaryFormat := { fractionBits := 10, scale := 24, topField := 31 }

def binary32 : BinaryFormat := { fractionBits := 23, scale := 149, topField := 255 }

def binary64 : BinaryFormat := { fractionBits := 52, scale := 1074, topField := 2047 }

/-- The magnitude bits of infinity: the first pattern above the finite ones. -/
def infinity (format : BinaryFormat) : Nat :=
  format.topField * Nat.pow 2 format.fractionBits

def signBit (format : BinaryFormat) : Nat :=
  (format.topField + 1) * Nat.pow 2 format.fractionBits

def exponentField (format : BinaryFormat) (magnitude : Nat) : Nat :=
  magnitude / Nat.pow 2 format.fractionBits

def fraction (format : BinaryFormat) (magnitude : Nat) : Nat :=
  magnitude % Nat.pow 2 format.fractionBits

def significand (format : BinaryFormat) (magnitude : Nat) : Nat :=
  if format.exponentField magnitude = 0 then format.fraction magnitude
  else Nat.pow 2 format.fractionBits + format.fraction magnitude

def exponent (format : BinaryFormat) (magnitude : Nat) : Int :=
  ((format.exponentField magnitude - 1 : Nat) : Int) - (format.scale : Int)

end BinaryFormat

/-!
## Rounding quotients
-/

/-- The integer nearest to a quotient; of two equally near ones, the even one. -/
def divNearest (num den : Nat) : Nat :=
  let quotient := num / den
  let rest := num % den
  if 2 * rest < den then quotient
  else if den < 2 * rest then quotient + 1
  else if quotient % 2 = 0 then quotient
  else quotient + 1

def scaleBy (num den : Nat) (power : Int) : Nat × Nat :=
  if 0 ≤ power then (num * Nat.pow 2 power.toNat, den) else (num, den * Nat.pow 2 (-power).toNat)

/-- The exponent of the power of two just below a positive quotient. -/
def binade (num den : Nat) : Int :=
  let guess : Int := (num.log2 : Int) - (den.log2 : Int)
  let (scaled, unit) := scaleBy num den (-guess)
  if unit ≤ scaled then guess else guess - 1

/-- The magnitude bits of the float nearest to a quotient: infinity from half a
unit above the largest finite float on. -/
def BinaryFormat.nearest (format : BinaryFormat) (num den : Nat) : Nat :=
  if num = 0 then 0
  else
    let q := max (binade num den - format.fractionBits) (-(format.scale : Int))
    let (scaled, unit) := scaleBy num den (-q)
    min ((q + format.scale).toNat * Nat.pow 2 format.fractionBits + divNearest scaled unit)
      format.infinity

/-!
## Double precision
-/

structure Binary64 where
  bits : UInt64
deriving DecidableEq, Repr

namespace Binary64

def negative (x : Binary64) : Bool :=
  BinaryFormat.binary64.signBit ≤ x.bits.toNat

def magnitude (x : Binary64) : Nat :=
  x.bits.toNat % BinaryFormat.binary64.signBit

def isNaN (x : Binary64) : Bool :=
  BinaryFormat.binary64.infinity < x.magnitude

def isFinite (x : Binary64) : Bool :=
  x.magnitude < BinaryFormat.binary64.infinity

def significand (x : Binary64) : Nat :=
  BinaryFormat.binary64.significand x.magnitude

def exponent (x : Binary64) : Int :=
  BinaryFormat.binary64.exponent x.magnitude

def ofMagnitude (negative : Bool) (magnitude : Nat) : Binary64 :=
  { bits := UInt64.ofNat
      (if negative then BinaryFormat.binary64.signBit + magnitude else magnitude) }

/-- Numeric equality: nothing equals not-a-number, and the two zeros are equal. -/
def equal (x y : Binary64) : Bool :=
  !x.isNaN && !y.isNaN && (x.bits == y.bits || (x.magnitude == 0 && y.magnitude == 0))

/-- Where a float stands in the order of values; both zeros stand at zero. -/
def rank (x : Binary64) : Int :=
  if x.negative then -(x.magnitude : Int) else x.magnitude

/-- Numeric order: not-a-number is neither before nor after anything. -/
def atMost (x y : Binary64) : Bool :=
  !x.isNaN && !y.isNaN && x.rank ≤ y.rank

def less (x y : Binary64) : Bool :=
  !x.isNaN && !y.isNaN && x.rank < y.rank

def ofRatio (negative : Bool) (num den : Nat) : Binary64 :=
  ofMagnitude negative (BinaryFormat.binary64.nearest num den)

def ofInt (i : Int) : Binary64 :=
  ofRatio (i < 0) i.natAbs 1

/-- The integer part, rounded toward zero; `none` for what is not finite. -/
def truncate? (x : Binary64) : Option Int :=
  if x.isFinite then
    let (num, den) := scaleBy x.significand 1 x.exponent
    let whole : Int := (num / den : Nat)
    some (if x.negative then -whole else whole)
  else none

/-- The integer part as far as 64 bits hold it: what lies beyond them is cut to the
bound on its side, and not-a-number counts as zero. -/
def toInt64 (x : Binary64) : Int64 :=
  match x.truncate? with
  | some i => Int64.ofIntClamp i
  | none =>
      if x.isNaN then 0
      else if x.negative then Int64.minValue
      else Int64.maxValue

/-!
## Other widths

Widening is exact.  Not-a-number keeps its payload in the leading fraction bits, as
far as they reach, and becomes quiet, whichever way the width changes.
-/

def widen (format : BinaryFormat) (bits : Nat) : Binary64 :=
  let negative := decide (format.signBit ≤ bits)
  let magnitude := bits % format.signBit
  if magnitude < format.infinity then
    let (num, den) := scaleBy (format.significand magnitude) 1 (format.exponent magnitude)
    ofRatio negative num den
  else if magnitude = format.infinity then
    ofMagnitude negative BinaryFormat.binary64.infinity
  else
    let payload := format.fraction magnitude * Nat.pow 2 (52 - format.fractionBits)
    ofMagnitude negative (BinaryFormat.binary64.infinity + (payload ||| 0x8000000000000))

def singleMagnitude (x : Binary64) : Nat :=
  if x.isNaN then
    let payload := BinaryFormat.binary64.fraction x.magnitude / Nat.pow 2 29
    BinaryFormat.binary32.infinity + (payload ||| 0x400000)
  else if x.isFinite then
    let (num, den) := scaleBy x.significand 1 x.exponent
    BinaryFormat.binary32.nearest num den
  else BinaryFormat.binary32.infinity

/-- The double with the value that remains after rounding to single precision. -/
def toSingle (x : Binary64) : Binary64 :=
  let single := x.singleMagnitude
  widen BinaryFormat.binary32
    (if x.negative then BinaryFormat.binary32.signBit + single else single)

end Binary64
end Number
end Troupe
