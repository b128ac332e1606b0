/-
**Reading decimal numerals as binary64 numbers.**

Two readings are in use. `nearestDecimal` rounds the exact decimal once, as configuration files
need it. `scaledDecimal` is the reading of JSON numerals: the digits are rounded to a magnitude
first, which is then multiplied or divided by a rounded power of ten of at most `308`, with one
rounding for each step; an exponent below `-308` takes several divisions. It gives the same number
as long as the digits stay below `2 ^ 53` and the exponent within `22`, and may differ in the last
place past that.

A magnitude past the finite ones is no number, so both readings answer `none` there.
-/

import InstanceHost.Binary64.Basic

namespace InstanceHost.Binary64

/-- The number of a sign and a rank, if the rank is finite. -/
def ofRank? (negative : Bool) (rank : Nat) : Option Binary64 :=
  if finite : rank < infinityRank then some ⟨negative, rank, finite⟩ else none

/-- Zero with a sign. -/
def zero (negative : Bool) : Binary64 :=
  ⟨negative, 0, by decide⟩

/-- The largest power of ten that one step scales by. -/
def largestPower : Nat := 308

/-- A rank divided by ten to a power, in steps of `largestPower`. -/
def divideByTen (rank power : Nat) : Nat :=
  if rank = 0 then 0
  else if power ≤ largestPower then divide rank (powerOfTen power)
  else divideByTen (divide rank (powerOfTen largestPower)) (power - largestPower)
termination_by power
decreasing_by simp only [largestPower] at *; omega

/-- **The reading of JSON numerals**: the digits as a magnitude, scaled by rounded powers of ten. -/
def scaledDecimal (negative : Bool) (digits : Nat) (power : Int) : Option Binary64 :=
  let rank := ofNat digits
  if power < 0 then ofRank? negative (divideByTen rank (-power).toNat)
  else if rank = 0 then some (zero negative)
  else if largestPower < power.toNat then none
  else ofRank? negative (multiply rank (powerOfTen power.toNat))

/-- The number nearest to a decimal; a tie goes to the even rank. Decimals from `10 ^ 309` on are
past the finite numbers, and those below `10 ^ (-324)` are nearest to zero. -/
def nearestDecimal (negative : Bool) (digits : Nat) (power : Int) : Option Binary64 :=
  let size := power + (Nat.toDigits 10 digits).length
  if digits = 0 ∨ size ≤ -324 then some (zero negative)
  else if 310 ≤ size then none
  else ofRank? negative (roundRatio (.scaled digits 10 power))

end InstanceHost.Binary64
