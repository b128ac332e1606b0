/-
**Finite binary floating-point numbers of 64 bits.**

A number is a sign and a *rank*: the finite magnitudes in increasing order, counted from zero. Rank
`0` is zero, rank `1` the least subnormal `2 ^ (-1074)`, and the ranks below `infinityRank` are the
finite magnitudes of IEEE 754 binary64. The next magnitude always has the next rank, so rounding up
across a power of two is one addition.

* `significand`, `exponent`: the magnitude of rank `r` is `significand r * 2 ^ exponent r`;
* `Ratio`: a magnitude as a quotient of two natural numbers, on which all arithmetic is exact;
* `roundRatio`: the rank nearest to a quotient, a tie going to the even rank;
* `multiply`, `divide`: the exact product and quotient of two magnitudes, rounded once.
-/

namespace InstanceHost

namespace Binary64

/-- How many magnitudes have the same exponent: two to the power 52. -/
def binade : Nat := 4503599627370496

/-- The first rank after the finite ones. -/
def infinityRank : Nat := 2047 * binade

end Binary64

/-- A finite binary64 number; both zeros are kept. -/
structure Binary64 where
  negative : Bool
  /-- The place of the magnitude among the finite magnitudes. -/
  rank : Nat
  /-- Infinities and values that are no numbers are left out. -/
  finite : rank < Binary64.infinityRank
deriving DecidableEq, Repr

namespace Binary64

/-- The integral significand of the magnitude of a rank. -/
def significand (rank : Nat) : Nat :=
  if rank < binade then rank else rank % binade + binade

/-- The power of two that scales the significand. -/
def exponent (rank : Nat) : Int :=
  if rank < binade then -1074 else (rank / binade : Nat) - 1075

/-- A nonnegative quotient of natural numbers. -/
structure Ratio where
  numerator : Nat
  /-- The divisor, positive wherever a magnitude is meant. -/
  denominator : Nat

/-- The product of a natural number and an integral power. -/
def Ratio.scaled (factor base : Nat) (power : Int) : Ratio :=
  if 0 ≤ power then ⟨factor * base.pow power.toNat, 1⟩ else ⟨factor, base.pow (-power).toNat⟩

/-- The product of two quotients. -/
def Ratio.times (first second : Ratio) : Ratio :=
  ⟨first.numerator * second.numerator, first.denominator * second.denominator⟩

/-- The quotient of two quotients. -/
def Ratio.over (first second : Ratio) : Ratio :=
  ⟨first.numerator * second.denominator, first.denominator * second.numerator⟩

/-- The exact magnitude of a rank. -/
def magnitude (rank : Nat) : Ratio :=
  .scaled (significand rank) 2 (exponent rank)

/-! ### Rounding -/

/-- The integer nearest to a quotient; a tie goes to the even one. -/
def roundHalfEven (numerator denominator : Nat) : Nat :=
  let below := numerator / denominator
  let rest := numerator % denominator
  if 2 * rest < denominator then below
  else if 2 * rest = denominator then below + below % 2
  else below + 1

/-- The binary logarithm of a positive quotient, rounded down. -/
def floorLog2 (ratio : Ratio) : Int :=
  let estimate : Int := (ratio.numerator.log2 : Int) - (ratio.denominator.log2 : Int)
  let power := Ratio.scaled ratio.denominator 2 estimate
  if power.numerator ≤ ratio.numerator * power.denominator then estimate else estimate - 1

/-- The rank nearest to a quotient; a tie goes to the even rank. Quotients past the finite
magnitudes get a rank of at least `infinityRank`. -/
def roundRatio (ratio : Ratio) : Nat :=
  if ratio.numerator = 0 then 0
  else
    let unit : Int := max (floorLog2 ratio - 52) (-1074)
    let steps := ratio.over (.scaled 1 2 unit)
    (unit + 1074).toNat * binade + roundHalfEven steps.numerator steps.denominator

/-- The product of two magnitudes, rounded once. -/
def multiply (first second : Nat) : Nat :=
  roundRatio ((magnitude first).times (magnitude second))

/-- The quotient of two magnitudes, rounded once. -/
def divide (first second : Nat) : Nat :=
  roundRatio ((magnitude first).over (magnitude second))

/-- The magnitude nearest to a natural number. -/
def ofNat (number : Nat) : Nat :=
  roundRatio ⟨number, 1⟩

/-- The magnitude nearest to a power of ten. -/
def powerOfTen (power : Nat) : Nat :=
  ofNat (Nat.pow 10 power)

end Binary64

end InstanceHost
