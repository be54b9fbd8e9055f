import Troupe.Number.Binary64

/-!
# Shortest decimals

The decimal with the fewest digits that a float can be read back from.  The
reals that round to a float `m * 2 ^ q` form an interval around it, its ends
included exactly when `m` is even.  For one digit, two digits, and so on, the
multiples of the corresponding power of ten next to the float are tested; the
first power with a multiple inside the interval wins, and of two the nearer.

All comparisons are between natural numbers: lengths are measured in quarters of
the last place of `m`, so that the interval has whole ends.
-/

namespace Troupe
namespace Number

structure Decimal where
  digits : Nat
  exponent : Int
deriving DecidableEq, Repr

inductive Tie where
  | toEven
  | up
deriving DecidableEq, Repr

/-- A float with the interval that rounds to it, in quarters of a unit in the
last place: the value is `center`, the ends are `low` and `high`, and one quarter
is `2 ^ exponent`. -/
structure RoundingInterval where
  low : Nat
  center : Nat
  high : Nat
  exponent : Int
  closed : Bool
deriving DecidableEq, Repr

/-- Just below a power of two the floats lie twice as dense, so there the
interval reaches only half as far down. -/
def Binary64.roundingInterval (x : Binary64) : RoundingInterval :=
  let m := x.significand
  let denseBelow := BinaryFormat.binary64.fraction x.magnitude = 0 &&
    1 < BinaryFormat.binary64.exponentField x.magnitude
  { low := 4 * m - (if denseBelow then 1 else 2)
    center := 4 * m
    high := 4 * m + 2
    exponent := x.exponent - 2
    closed := m % 2 = 0 }

namespace RoundingInterval

/-- Two factors that make multiples of `10 ^ ten` and of a quarter comparable:
`d * 10 ^ ten` compares with `k` quarters as `d * first` with `k * second`. -/
def factors (interval : RoundingInterval) (ten : Int) : Nat × Nat :=
  let first := if 0 ≤ ten then Nat.pow 10 ten.toNat else 1
  let second := if 0 ≤ ten then 1 else Nat.pow 10 (-ten).toNat
  if 0 ≤ interval.exponent then (first, second * Nat.pow 2 interval.exponent.toNat)
  else (first * Nat.pow 2 (-interval.exponent).toNat, second)

def contains (interval : RoundingInterval) (ten : Int) (d : Nat) : Bool :=
  let (first, second) := interval.factors ten
  if interval.closed then
    interval.low * second ≤ d * first && d * first ≤ interval.high * second
  else
    interval.low * second < d * first && d * first < interval.high * second

/-- The multiple of `10 ^ ten` inside the interval that is nearest its center. -/
def multiple? (interval : RoundingInterval) (tie : Tie) (ten : Int) : Option Nat :=
  let (first, second) := interval.factors ten
  let center := interval.center * second
  let below := center / first
  let toBelow := center - below * first
  let toAbove := (below + 1) * first - center
  let upper :=
    toAbove < toBelow ||
      (toAbove == toBelow && (tie == Tie.up || below % 2 == 1))
  let (near, far) := if upper then (below + 1, below) else (below, below + 1)
  if interval.contains ten near then some near
  else if interval.contains ten far then some far
  else none

def decade (interval : RoundingInterval) : Int :=
  let guess := ((interval.center.log2 : Int) + interval.exponent) * 30103 / 100000 + 1
  let reaches (ten : Int) : Bool :=
    let (first, second) := interval.factors ten
    first ≤ interval.center * second
  if reaches guess then guess
  else if reaches (guess - 1) then guess - 1
  else guess - 2

def exact (interval : RoundingInterval) : Decimal :=
  if 0 ≤ interval.exponent then
    { digits := interval.center * Nat.pow 2 interval.exponent.toNat, exponent := 0 }
  else
    { digits := interval.center * Nat.pow 5 (-interval.exponent).toNat
      exponent := interval.exponent }

end RoundingInterval

/-- The decimal with the fewest digits that reads back as the magnitude of a
float.  Seventeen digits always suffice; writing the value out in full needs no
such argument. -/
def Binary64.shortest (x : Binary64) (tie : Tie) : Decimal :=
  if x.magnitude = 0 then { digits := 0, exponent := 0 }
  else
    let interval := x.roundingInterval
    let decade := interval.decade
    let found := (List.range 17).findSome? fun (i : Nat) =>
      (interval.multiple? tie (decade - i)).map
        fun d => ({ digits := d, exponent := decade - i } : Decimal)
    found.getD interval.exact

end Number
end Troupe
