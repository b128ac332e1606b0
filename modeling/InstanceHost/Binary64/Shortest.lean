/-
**The shortest decimal of a binary64 number.**

The numbers that round to a magnitude form an interval around it, which holds its ends exactly when
the rank is even. The shortest decimal is the one with the fewest significant digits in that
interval, and of those the nearest to the magnitude.

* `Neighbourhood`: the magnitude and the ends of its interval, over one denominator;
* `onGrid`: the better of the two multiples of a power of ten next to the magnitude, if one lies in
  the interval;
* `shortest`: the first grid, from one significant digit up, that has such a multiple.

Seventeen significant digits always suffice.
-/

import InstanceHost.Binary64.Basic

namespace InstanceHost.Binary64

/-- A decimal in scientific notation: its digits, the first before the point, and its exponent. -/
structure Scientific where
  digits : List Char
  /-- The power of ten of the first digit. -/
  exponent : Int
deriving DecidableEq, Repr

/-- A magnitude between the ends of the interval that rounds to it, in units of a denominator. -/
structure Neighbourhood where
  low : Nat
  centre : Nat
  high : Nat
  denominator : Nat
  /-- Whether the ends round to the magnitude too. -/
  closed : Bool

/-- The interval of a rank. Below a power of two the neighbour is half as far. -/
def neighbourhood (rank : Nat) : Neighbourhood :=
  let digits := significand rank
  let narrow := digits = binade ∧ binade < rank
  let scale := Ratio.scaled 1 2 (exponent rank - 2)
  { low := (4 * digits - if narrow then 1 else 2) * scale.numerator
    centre := 4 * digits * scale.numerator
    high := (4 * digits + 2) * scale.numerator
    denominator := scale.denominator
    closed := digits % 2 = 0 }

/-- The power of ten of the first significant digit of a positive quotient. -/
def floorLog10 (numerator denominator : Nat) : Int :=
  (Nat.toDigits 10 (numerator * Nat.pow 10 324 / denominator)).length - 325

/-- Whether a multiple of a power of ten, given over the denominator, lies in the interval. -/
def Neighbourhood.holds (interval : Neighbourhood) (point : Ratio) : Bool :=
  let scaled := point.numerator * interval.denominator
  if interval.closed then
    interval.low * point.denominator ≤ scaled && scaled ≤ interval.high * point.denominator
  else
    interval.low * point.denominator < scaled && scaled < interval.high * point.denominator

/-- The better of the two multiples of a power of ten next to the magnitude, if one lies in the
interval; of two equally near ones the even multiple. -/
def Neighbourhood.onGrid (interval : Neighbourhood) (power : Int) : Option Nat :=
  let units := Ratio.over ⟨interval.centre, interval.denominator⟩ (.scaled 1 10 power)
  let below := units.numerator / units.denominator
  let nearest := roundHalfEven units.numerator units.denominator
  let farther := if nearest = below then below + 1 else below
  if interval.holds (.scaled nearest 10 power) then some nearest
  else if interval.holds (.scaled farther 10 power) then some farther
  else none

/-- Digits without the zeros at the end. -/
def withoutTrailingZeros (digits : List Char) : List Char :=
  (digits.reverse.dropWhile (· == '0')).reverse

/-- The first grid with a multiple in the interval, trying `fuel` further digits. -/
def searchGrids (interval : Neighbourhood) (leading : Int) : (count fuel : Nat) → Scientific
  | _, 0 => ⟨['0'], 0⟩
  | count, fuel + 1 =>
    let power := leading - count
    match interval.onGrid power with
    | some multiple =>
      let digits := Nat.toDigits 10 multiple
      ⟨withoutTrailingZeros digits, power + (digits.length - 1 : Nat)⟩
    | none => searchGrids interval leading (count + 1) fuel

/-- **The shortest decimal that rounds to the magnitude of a positive rank.** -/
def shortest (rank : Nat) : Scientific :=
  let interval := neighbourhood rank
  searchGrids interval (floorLog10 interval.centre interval.denominator) 0 17

end InstanceHost.Binary64
